/-
  The command line: what a run is asked to do.

  A line has two levels, the program's own and that of one of its commands, and the options that choose
  the configuration and the kind of output may stand on either.  Arguments are taken from left to right.
  A value that an option or a command was given is only PENDING until something else settles it, and is
  checked then: so of two faults the one that stops the reading counts, and one in a pending value
  counts only if the reading gets past it.
-/
import RollConditions.Environment

namespace RollConditions

/-- What a run is to do. -/
inductive Action where
  /-- Test a predicate on facts: single ones, named sets of them, and those of a file. -/
  | test (predicate : String) (facts : List String) (factSets : List String)
    (factsFile : Option String)
  /-- Check a predicate, or the configuration. -/
  | validate (predicate : Option String)
  /-- Show what the configuration names. -/
  | list
  /-- Print completions for a shell. -/
  | completions (shell : Shell)
deriving DecidableEq

/-- A command line that was understood. -/
structure Invocation where
  /-- The path of the configuration. -/
  config : Option String
  json : Bool
  noJson : Bool
  quiet : Bool
  verbose : Bool
  action : Action
deriving DecidableEq

/-- Why a command line does not ask for an action.  Wanting help or the version is no fault, but leads to
    no action either. -/
inductive LineError where
  | helpWanted
  | versionWanted
  /-- Nothing was given at all. -/
  | nothingGiven
  /-- Options were given, but no command. -/
  | noCommand
  /-- A command that there is not. -/
  | unknownCommand
  /-- An option that there is not, or a value too many. -/
  | unknownArgument
  /-- A value that an option lacks, or may not have. -/
  | badValue
  /-- A value for an option that has none. -/
  | unwantedValue
  /-- An option given twice, or two that exclude each other. -/
  | conflict
  /-- A command without a value that it needs. -/
  | valueMissing
deriving DecidableEq

namespace LineError

/-- The exit code of a run without an action. -/
def exitCode : LineError → Nat
  | helpWanted | versionWanted => 0
  | _ => 2

end LineError

namespace Line

/-! ## The options of each level -/

/-- The program's own level, and one for each command. -/
inductive Level where
  | program
  | test
  | validate
  | list
  | completions
deriving DecidableEq

/-- The options of all levels. -/
inductive Flag where
  | config
  | json
  | noJson
  | quiet
  | verbose
  | help
  | version
  | fact
  | factsFrom
  | factsFile
deriving DecidableEq

namespace Level

/-- The level of a command. -/
def ofCommand? : String → Option Level
  | "test" => some test
  | "validate" => some validate
  | "list" => some list
  | "completions" => some completions
  | _ => none

/-- Whether a level takes a value without an option. -/
def takesValue : Level → Bool
  | test | validate | completions => true
  | program | list => false

/-- Whether a level needs a value without an option. -/
def needsValue : Level → Bool
  | test | completions => true
  | program | validate | list => false

/-- The options of a level by their long names. -/
def longFlag? (level : Level) (name : String) : Option Flag :=
  match name with
  | "config" => some .config
  | "json" => some .json
  | "no-json" => some .noJson
  | "quiet" => some .quiet
  | "verbose" => some .verbose
  | "help" => some .help
  | "version" => if level = program then some .version else none
  | "fact" => if level = test then some .fact else none
  | "facts-from" => if level = test then some .factsFrom else none
  | "facts-file" => if level = test then some .factsFile else none
  | _ => none

/-- The options of a level by their letters. -/
def shortFlag? (level : Level) (letter : Char) : Option Flag :=
  match letter with
  | 'j' => some .json
  | 'q' => some .quiet
  | 'v' => some .verbose
  | 'h' => some .help
  | 'V' => if level = program then some .version else none
  | 'f' => if level = test then some .fact else none
  | _ => none

end Level

namespace Flag

/-- Whether an option has a value. -/
def hasValue : Flag → Bool
  | config | fact | factsFrom | factsFile => true
  | _ => false

end Flag

/-! ## What a level was given -/

/-- The options and the value that a level was given. -/
structure Given where
  config : Option String
  json : Bool
  noJson : Bool
  quiet : Bool
  verbose : Bool
  facts : List String
  factSets : List String
  factsFile : Option String
  value : Option String
deriving DecidableEq

/-- Nothing. -/
def Given.nothing : Given := ⟨none, false, false, false, false, [], [], none, none⟩

/-- What a value is for. -/
inductive Target where
  | flag (flag : Flag)
  /-- The value of the level itself. -/
  | level
deriving DecidableEq

/-- A level while its arguments are taken. -/
structure Progress where
  given : Given
  /-- A target whose value is not settled; an option may still wait for its value. -/
  pending : Option (Target × Option String)
  /-- Whether all further arguments are values. -/
  valuesOnly : Bool

/-- A level before its first argument. -/
def Progress.start : Progress := ⟨Given.nothing, none, false⟩

namespace Given

/-- A setting that may be made once. -/
def once {α : Type} (old : Option α) (new : α) : Except LineError (Option α) :=
  if old.isSome then .error .conflict else .ok (some new)

/-- A path, which may not be empty. -/
def path (text : String) : Except LineError String :=
  if text.isEmpty then .error .badValue else .ok text

/-- A switch that may be thrown once. -/
def switch (old : Bool) : Except LineError Bool := if old then .error .conflict else .ok true

/-- What a level was given, with one more option that has no value. -/
def throwSwitch (given : Given) : Flag → Except LineError Given
  | .json => do return { given with json := ← switch given.json }
  | .noJson => do return { given with noJson := ← switch given.noJson }
  | .quiet => do return { given with quiet := ← switch given.quiet }
  | .verbose => do return { given with verbose := ← switch given.verbose }
  | .help => .error .helpWanted
  | .version => .error .versionWanted
  | _ => .ok given

/-- What a level was given, with one more value. -/
def putValue (level : Level) (given : Given) (target : Target) (value : String) :
    Except LineError Given :=
  match target with
  | .flag .config => do
    let config ← once given.config value
    let _ ← path value
    return { given with config }
  | .flag .factsFile => do
    let factsFile ← once given.factsFile value
    let _ ← path value
    return { given with factsFile }
  | .flag .fact => .ok { given with facts := given.facts ++ [value] }
  | .flag .factsFrom => .ok { given with factSets := given.factSets ++ [value] }
  | .flag _ => .ok given
  | .level =>
    if level = .completions ∧ (Shell.ofName? value).isNone then .error .badValue
    else .ok { given with value := some value }

end Given

namespace Progress

/-- The option that takes the next value.  Where all further arguments are values of the level, an option
    that still waits for its own no longer gets one. -/
def awaitsValue (progress : Progress) : Option Target :=
  match progress.valuesOnly, progress.pending with
  | false, some (target, none) => some target
  | _, _ => none

/-- The pending value is settled; an option that still waits for one lacks it. -/
def settle (level : Level) (progress : Progress) : Except LineError Progress :=
  match progress.pending with
  | none => .ok progress
  | some (_, none) => .error .badValue
  | some (target, some value) => do
    return { progress with given := ← progress.given.putValue level target value, pending := none }

/-- One more value becomes pending. -/
def hold (level : Level) (progress : Progress) (target : Target) (value : Option String) :
    Except LineError Progress := do
  return { ← progress.settle level with pending := some (target, value) }

/-- An option without a value. -/
def switch (level : Level) (progress : Progress) (flag : Flag) : Except LineError Progress := do
  let settled ← progress.settle level
  return { settled with given := ← settled.given.throwSwitch flag }

/-- An option with its value in the same argument, which is not pending. -/
def give (level : Level) (progress : Progress) (flag : Flag) (value : String) :
    Except LineError Progress := do
  let settled ← progress.settle level
  return { settled with given := ← settled.given.putValue level (.flag flag) value }

/-- An option by its long name, with a value after an equals sign or without. -/
def takeLong (level : Level) (progress : Progress) (name : String) (value : Option String) :
    Except LineError Progress :=
  match level.longFlag? name with
  | none => .error .unknownArgument
  | some flag =>
    if flag.hasValue then
      match value with
      | some value => progress.give level flag value
      | none => progress.hold level (.flag flag) none
    else
      match value with
      | some _ => .error .unwantedValue
      | none => progress.switch level flag

/-- Options by their letters.  After the letter of one that has a value comes the value, with an equals
    sign between or without, or the next argument is it. -/
def takeLetters (level : Level) (progress : Progress) : List Char → Except LineError Progress
  | [] => .ok progress
  | letter :: rest =>
    match level.shortFlag? letter with
    | none => .error .unknownArgument
    | some flag =>
      if flag.hasValue then
        match rest with
        | [] => progress.hold level (.flag flag) none
        | '=' :: value => progress.give level flag (String.ofList value)
        | value => progress.give level flag (String.ofList value)
      else do takeLetters level (← progress.switch level flag) rest

/-- A value, for the option that waits for one or else for the level. -/
def takeValue (level : Level) (progress : Progress) (value : String) : Except LineError Progress :=
  match progress.awaitsValue with
  | some target => .ok { progress with pending := some (target, some value) }
  | none =>
    let isFull := progress.given.value.isSome || (progress.pending.map (·.1)) == some .level
    if level.takesValue && !isFull then progress.hold level .level (some value)
    else if level = .program then
      if progress.valuesOnly && ((Level.ofCommand? value).isSome || value == "help") then
        .error .unknownArgument
      else .error .unknownCommand
    else .error .unknownArgument

/-- An argument that is no command. -/
def takeArgument (level : Level) (progress : Progress) (argument : String) :
    Except LineError Progress :=
  if progress.valuesOnly then progress.takeValue level argument
  else
    match argument.toList with
    | ['-', '-'] => .ok { progress with valuesOnly := true }
    | '-' :: '-' :: rest =>
      let name := rest.takeWhile (· != '=')
      match rest.drop name.length with
      | [] => progress.takeLong level (String.ofList name) none
      | _ :: value => progress.takeLong level (String.ofList name) (some (String.ofList value))
    | '-' :: letter :: rest => progress.takeLetters level (letter :: rest)
    | _ => progress.takeValue level argument

end Progress

/-! ## Whole lines -/

/-- The end of a level: what was given, after all checks. -/
def conclude (level : Level) (progress : Progress) : Except LineError Given := do
  let given := (← progress.settle level).given
  if given.json && given.noJson then throw .conflict
  if level.needsValue && given.value.isNone then throw .valueMissing
  return given

/-- Why a line without a command asks for nothing. -/
def errorWithoutCommand (progress : Progress) : LineError :=
  match progress.settle .program with
  | .error fault => fault
  | .ok settled => if settled.given = Given.nothing then .nothingGiven else .noCommand

/-- The arguments of a command, all of which belong to its level. -/
def takeAll (level : Level) (progress : Progress) (arguments : List String) :
    Except LineError Progress :=
  arguments.foldlM (Progress.takeArgument level) progress

/-- The command for help: it may name one command. -/
def helpError : List String → LineError
  | [] => .helpWanted
  | [command] =>
    if (Level.ofCommand? command).isSome || command == "help" then .helpWanted else .unknownCommand
  | _ => .unknownCommand

/-- The arguments of the program's own level up to the command, and those of the command's level.  The
    name of a command is a value where an option waits for one, and where all arguments are values. -/
def takeProgram (progress : Progress) : List String → Except LineError (Given × Level × Given)
  | [] => .error (errorWithoutCommand progress)
  | argument :: rest =>
    let mayBeCommand := !progress.valuesOnly && progress.awaitsValue.isNone
    match mayBeCommand, Level.ofCommand? argument with
    | true, some level => do
      let below ← conclude level (← takeAll level Progress.start rest)
      let above ← conclude .program progress
      return (above, level, below)
    | _, _ =>
      if mayBeCommand && argument == "help" then .error (helpError rest)
      else do takeProgram (← progress.takeArgument .program argument) rest

/-- The action of a command with what it was given; what a command needs was checked before. -/
def action? (level : Level) (given : Given) : Option Action :=
  match level with
  | .program => none
  | .test => given.value.map (fun predicate =>
      .test predicate given.facts given.factSets given.factsFile)
  | .validate => some (.validate given.value)
  | .list => some .list
  | .completions => (given.value.bind Shell.ofName?).map .completions

end Line

open Line

/-- What a command line asks for.  An option of both levels counts if it stands on either; of two paths
    for the configuration the command's own counts. -/
def Invocation.ofArguments (arguments : List String) : Except LineError Invocation := do
  let (above, level, below) ← takeProgram Progress.start arguments
  match action? level below with
  | some action =>
    return {
      config := below.config <|> above.config
      json := above.json || below.json
      noJson := above.noJson || below.noJson
      quiet := above.quiet || below.quiet
      verbose := above.verbose || below.verbose
      action }
  | none => throw .valueMissing

end RollConditions
