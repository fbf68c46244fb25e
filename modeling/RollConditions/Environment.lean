/-
  What a run finds around it.

  A run only looks paths up, so a disk is a function from paths.  What is under a path may be there and
  still not be readable, which is another case than that nothing is there: the program asks first whether
  a file is there, and reads it afterwards.  `Tree` is a disk held in memory, below a working directory: it
  follows paths the way an operating system does, one name after another, each inside a directory that has
  to be there, and everything in it can be read.
-/

namespace RollConditions

/-- Why nothing can be read under a path. -/
inductive FileError where
  | missing
  | isDirectory
  /-- The path goes on after something that is not a directory. -/
  | notDirectory
  | nameTooLong
  /-- The path holds the character that ends names. -/
  | invalidName
  /-- The content is not UTF-8. -/
  | notText
  /-- The system does not allow it. -/
  | notAllowed
  /-- Anything else, in the words of the system. -/
  | other (message : String)
deriving DecidableEq

/-- The wording of a file error. -/
def FileError.message : FileError → String
  | missing => "No such file or directory (os error 2)"
  | isDirectory => "Is a directory (os error 21)"
  | notDirectory => "Not a directory (os error 20)"
  | nameTooLong => "File name too long (os error 36)"
  | invalidName => "file name contained an unexpected NUL byte"
  | notText => "stream did not contain valid UTF-8"
  | notAllowed => "Permission denied (os error 13)"
  | other message => message

/-- What is found under a path. -/
inductive DiskEntry where
  | file (content : ByteArray)
  | directory
  /-- Something that is there, and the reason why it cannot be read. -/
  | unreadable (reason : FileError)
  /-- Nothing that is known to be there: the path leads nowhere, or may not be followed. -/
  | absent (reason : FileError)

/-- What is found under each path. -/
abbrev Disk := String → DiskEntry

namespace Disk

/-- Whether something is under a path, which need not be readable. -/
def has (disk : Disk) (path : String) : Bool :=
  match disk path with
  | .absent _ => false
  | _ => true

/-- The text of the file under a path. -/
def readText (disk : Disk) (path : String) : Except FileError String :=
  match disk path with
  | .file content =>
    match String.fromUTF8? content with
    | some text => .ok text
    | none => .error .notText
  | .directory => .error .isDirectory
  | .unreadable reason => .error reason
  | .absent reason => .error reason

end Disk

/-! ## Disks in memory -/

/-- A file, or a directory with what is in it. -/
inductive Tree where
  | file (content : ByteArray)
  | directory (entries : List (String × Tree))
deriving Inhabited

namespace Tree

/-- What is in a directory; nothing is in a file. -/
def entries : Tree → List (String × Tree)
  | directory entries => entries
  | file _ => []

/-- The tree with something put under a path, given as its names; directories on the way are made. -/
def put : Tree → List String → Tree → Tree
  | _, [], thing => thing
  | tree, name :: rest, thing =>
    let below := (tree.entries.lookup name).getD (directory [])
    let others := tree.entries.filter (fun entry => entry.1 != name)
    directory ((name, put below rest thing) :: others)

/-- The longest name of a file, in bytes. -/
def longestName : Nat := 255

/-- The longest path, in bytes. -/
def longestPath : Nat := 4095

/-- One name further from a place, which is given with the directories above it, nearest first.  Above
    the working directory nothing is known but that there are directories. -/
def step (place : Tree × List Tree) (name : String) : Except FileError (Tree × List Tree) :=
  match place with
  | (file _, _) => .error .notDirectory
  | (directory entries, above) =>
    if name = "" ∨ name = "." then .ok (directory entries, above)
    else if name = ".." then
      match above with
      | [] => .ok (directory [], [])
      | parent :: rest => .ok (parent, rest)
    else if longestName < name.utf8ByteSize then .error .nameTooLong
    else
      match entries.lookup name with
      | some thing => .ok (thing, directory entries :: above)
      | none => .error .missing

/-- What is found under a path. -/
def toDisk (tree : Tree) : Disk := fun path =>
  if path = "" then .absent .missing
  else if path.toList.contains '\x00' then .absent .invalidName
  else if longestPath < path.utf8ByteSize then .absent .nameTooLong
  else if path.startsWith "/" then .absent .missing
  else
    match (path.splitOn "/").foldlM step (tree, []) with
    | .ok (file content, _) => .file content
    | .ok (directory _, _) => .directory
    | .error reason => .absent reason

end Tree

/-! ## The environment -/

/-- The shells that completions can be printed for. -/
inductive Shell where
  | bash
  | elvish
  | fish
  | powershell
  | zsh
deriving DecidableEq

namespace Shell

/-- The shell with a name. -/
def ofName? : String → Option Shell
  | "bash" => some .bash
  | "elvish" => some .elvish
  | "fish" => some .fish
  | "powershell" => some .powershell
  | "zsh" => some .zsh
  | _ => none

end Shell

/-- What a run finds around it. -/
structure Environment where
  /-- The value of the variable that names the configuration file, `ROLLPRED_CONFIG`. -/
  configVariable : Option String
  /-- The home directory. -/
  home : Option String
  /-- Whether the output goes to a terminal. -/
  onTerminal : Bool
  disk : Disk
  /-- The script that completes command lines in a shell.  A package generates it, so the text is whatever
      it is given as, and empty if it is not given. -/
  completions : Shell → String := fun _ => ""

end RollConditions
