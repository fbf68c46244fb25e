/-
  The program.

  It understands its command line, looks up the files that the run will ask for, and prints what the run
  leaves behind.  No completion scripts are generated here, so the command that prints one prints nothing.
-/
import RollConditions.Command.Run

namespace RollConditions

namespace System

/-- The number that the system has for an error; a file that cannot be opened has it with the opposite
    sign. -/
def errorNumber : IO.Error → UInt32
  | .noFileOrDirectory _ code _ | .permissionDenied _ code _ | .inappropriateType _ code _
  | .invalidArgument _ code _ | .hardwareFault code _ => if code < 0x80000000 then code else -code
  | _ => 0

/-- A failed attempt to read a file. -/
def fileError (error : IO.Error) : FileError :=
  match errorNumber error with
  | 2 => .missing
  | 5 => .other "Input/output error (os error 5)"
  | 13 => .notAllowed
  | 20 => .notDirectory
  | 21 => .isDirectory
  | 36 => .nameTooLong
  | _ => .other (toString error)

/-- Whether a path leads to something, which need not be readable. -/
def leadsSomewhere (path : String) : IO Bool := do
  try
    let _ ← IO.FS.realPath path
    return true
  catch _ => return false

/-- What is found under a path. -/
def lookUp (path : String) : IO DiskEntry := do
  try
    return .file (← IO.FS.readBinFile path)
  catch error =>
    match fileError error with
    | .isDirectory => return .directory
    | reason => return if ← leadsSomewhere path then .unreadable reason else .absent reason

/-- The disk as far as some paths go. -/
def disk (paths : List String) : IO Disk := do
  let entries ← paths.mapM (fun path => do return (path, ← lookUp path))
  return fun path => (entries.lookup path).getD (.absent .missing)

/-- The value of an environment variable that is not empty. -/
def nonEmptyVariable (name : String) : IO (Option String) := do
  return (← IO.getEnv name).filter (fun value => !value.isEmpty)

/-- What the run finds around it. -/
def environment (invocation : Invocation) : IO Environment := do
  let around : Environment := {
    configVariable := ← IO.getEnv "ROLLPRED_CONFIG"
    home := ← nonEmptyVariable "HOME"
    onTerminal := ← (← IO.getStdout).isTty
    disk := fun _ => .absent .missing }
  return { around with disk := ← disk (invocation.paths around) }

end System

/-- The commands of the program. -/
def Invocation.commands : List String := ["test", "validate", "list", "completions", "help"]

/-- What is said about a command line that asks for no action. -/
def LineError.usage : LineError → String
  | .versionWanted => "rollpred 0.1.0"
  | .helpWanted | .nothingGiven =>
    "Usage: rollpred [OPTIONS] <" ++ "|".intercalate Invocation.commands ++ ">"
  | .noCommand => "error: a command is needed"
  | .unknownCommand => "error: there is no such command"
  | .unknownArgument => "error: there is no such option, or a value too many"
  | .badValue => "error: an option lacks its value, or cannot have it"
  | .unwantedValue => "error: an option has a value that takes none"
  | .conflict => "error: an option is given twice, or two options exclude each other"
  | .valueMissing => "error: a command lacks its value"

end RollConditions

open RollConditions in
/-- Runs the command line. -/
def main (arguments : List String) : IO UInt32 := do
  match Invocation.ofArguments arguments with
  | .error fault =>
    if fault.exitCode = 0 then IO.println fault.usage else IO.eprintln fault.usage
    return fault.exitCode.toUInt32
  | .ok invocation =>
    let outcome := invocation.run (← System.environment invocation)
    IO.print outcome.output
    IO.eprint outcome.errors
    return outcome.exitCode.toUInt32
