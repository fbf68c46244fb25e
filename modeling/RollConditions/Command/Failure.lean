/-
  Why a run could not do what it was asked to.
-/
import RollConditions.Config.Location

namespace RollConditions

/-- What kinds of things a configuration names. -/
inductive NamedThing where
  | predicate
  | factSet
deriving DecidableEq

/-- The word for a kind of thing. -/
def NamedThing.word : NamedThing → String
  | predicate => "predicate"
  | factSet => "fact set"

/-- Why a run failed. -/
inductive Failure where
  /-- A name that the configuration does not know, with the names that it knows. -/
  | unknownName (thing : NamedThing) (name : String) (known : List String)
  /-- A predicate on the command line that is no JSON5. -/
  | notJson5 (argument : String) (fault : Document.Fault)
  /-- There is no configuration. -/
  | config (error : ConfigError)
  /-- The configuration in a file is wrong in some places. -/
  | configProblems (path : String) (problems : List Config.Problem)
  /-- A predicate is none. -/
  | statement (error : StatementError)
  /-- A file of facts cannot be read. -/
  | factsUnreadable (path : String) (error : FileError)
  /-- A file of facts does not hold a list of texts. -/
  | factsUnparsable (path : String) (fault : Document.Fault)

namespace Failure

/-- The known names that an unknown one may be meant for, as far away as a misspelt key may be. -/
def meant (name : String) (known : List String) : List String :=
  known.filter (fun candidate => Text.editDistance name candidate ≤ Keyword.nearby)

/-- The message of a failure. -/
def message : Failure → String
  | unknownName thing name known =>
    let unknown := "unknown " ++ thing.word ++ " '" ++ name ++ "'"
    match meant name known with
    | [] => unknown
    | names => unknown ++ ", did you mean: " ++ ", ".intercalate names ++ "?"
  | notJson5 argument fault =>
    "predicate is not valid JSON5 (" ++ Document.json5.message fault
      ++ "); quote bare roll options, e.g. '\"" ++ argument ++ "\"'"
  | config error => error.message
  | configProblems path problems =>
    "configuration has " ++ toString problems.length ++ " error(s): " ++ path
  | statement error => error.message
  | factsUnreadable path error => "Failed to read facts file: " ++ path ++ ": " ++ error.message
  | factsUnparsable path fault =>
    "Failed to parse facts file: " ++ path ++ ": " ++ Document.strictJson.message fault

/-- The exit code of a failed run: 3 for the arguments, 4 for the configuration, 5 for a statement, 2
    for all else. -/
def exitCode : Failure → Nat
  | unknownName .. | notJson5 .. => 3
  | config _ | configProblems .. => 4
  | statement _ => 5
  | factsUnreadable .. | factsUnparsable .. => 2

end Failure

end RollConditions
