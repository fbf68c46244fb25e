/-
  What a run reports, and the three ways to print it.

  JSON goes to the standard output, in one line, failures too.  Lines of text are for a terminal; a
  failure then goes to the standard error.  Quiet output holds nothing but failures.
-/
import RollConditions.Command.Failure

namespace RollConditions

/-- How a run prints. -/
inductive OutputMode where
  | lines
  | json
  | quiet
deriving DecidableEq

/-- A named predicate in a listing, as it is shown or with the message why it is none. -/
structure ListedPredicate where
  name : String
  shown : Except String String

/-- What a validation was about. -/
inductive Validated where
  /-- A predicate on the command line. -/
  | inline (predicate : Predicate)
  /-- The empty configuration, for want of a file. -/
  | defaults
  /-- The configuration in a file. -/
  | file (path : String)

/-- The result of a run. -/
inductive Report where
  /-- Whether a predicate holds, and of which facts if they are to be shown. -/
  | tested (predicate : Predicate) (holds : Bool) (facts : Option (List String))
  /-- Nothing is wrong. -/
  | valid (validated : Validated)
  /-- What a configuration names. -/
  | listing (predicates : List ListedPredicate) (facts : List (String × List String))
  /-- A text of its own, which is printed as it is in every mode. -/
  | script (text : String)

/-- What a run leaves behind. -/
structure Outcome where
  exitCode : Nat
  output : String
  errors : String
deriving DecidableEq

namespace Report

/-! ## JSON -/

/-- The envelope of a result. -/
def resultEnvelope (result : Json) : Json :=
  .object [("jsonrpc", .text "2.0"), ("result", result), ("id", .null)]

/-- The result of a validation. -/
def validatedJson (source : String) (statements : Option Nat) : Json :=
  let count := match statements with
    | some count => [("statements", Json.ofNat count)]
    | none => []
  .object ([("source", .text source), ("valid", .bool true)] ++ count ++ [("errors", .list [])])

/-- The entry of a named predicate. -/
def listedJson (entry : ListedPredicate) : Json :=
  let shown := match entry.shown with
    | .ok text => ("predicate", .text text)
    | .error message => ("error", .text message)
  .object [("name", .text entry.name), shown]

/-- The result of a run as a JSON value; none for a script. -/
def toJson? : Report → Option Json
  | tested predicate holds facts =>
    let shown := match facts with
      | some facts => [("facts", Json.ofTexts facts)]
      | none => []
    some (.object ([("predicate", .text predicate.text), ("satisfied", .bool holds)] ++ shown))
  | valid (.inline predicate) =>
    some (validatedJson "inline" (some predicate.statements.length))
  | valid .defaults => some (validatedJson "defaults" none)
  | valid (.file path) => some (validatedJson path none)
  | listing predicates facts =>
    some (.object
      [("predicates", .list (predicates.map listedJson)),
       ("facts", .list (facts.map (fun entry =>
          .object [("name", .text entry.1), ("options", Json.ofTexts entry.2)])))])
  | script _ => none

/-! ## Lines -/

/-- A line of a listing: the name, padded to a number of characters, and what it stands for. -/
def listedLine (width : Nat) (name shown : String) : String :=
  let padding := String.ofList (List.replicate (width - name.length) ' ')
  "  " ++ name ++ padding ++ "  " ++ shown

/-- A part of a listing. -/
def listedPart (title : String) (lines : List String) : List String :=
  title :: if lines.isEmpty then ["  (none)"] else lines

/-- The width of the names of a listing: that of the longest, which is measured in bytes. -/
def listingWidth (names : List String) : Nat := (names.map String.utf8ByteSize).max?.getD 0

/-- The result of a run as lines; none for a script. -/
def lines : Report → List String
  | tested predicate holds facts =>
    let verdict := if holds then "✓ holds: " else "✗ does not hold: "
    let shown := match facts with
      | some facts => ["  facts: " ++ ", ".intercalate facts]
      | none => []
    (verdict ++ predicate.text) :: shown
  | valid (.inline predicate) => ["✓ Predicate is valid: " ++ predicate.text]
  | valid .defaults => ["✓ No config file, using defaults"]
  | valid (.file path) => ["✓ Configuration is valid: " ++ path]
  | listing predicates facts =>
    let width := listingWidth (predicates.map (·.name) ++ facts.map (·.1))
    let predicateLine (entry : ListedPredicate) : String :=
      listedLine width entry.name (match entry.shown with
        | .ok text => text
        | .error message => "✗ " ++ message)
    let factsLine (entry : String × List String) : String :=
      listedLine width entry.1 (", ".intercalate entry.2)
    listedPart "Predicates:" (predicates.map predicateLine) ++ [""]
      ++ listedPart "Fact sets:" (facts.map factsLine)
  | script _ => []

/-! ## Printing -/

/-- Lines, each with its end. -/
def printLines (lines : List String) : String := String.join (lines.map (· ++ "\n"))

/-- The exit code of a result: 1 for a predicate that does not hold. -/
def exitCode : Report → Nat
  | tested _ false _ => 1
  | _ => 0

/-- A result as it is printed. -/
def print (mode : OutputMode) (report : Report) : String :=
  match report, mode with
  | script text, _ => text
  | _, .lines => printLines report.lines
  | _, .json => printLines (report.toJson?.toList.map (fun result => (resultEnvelope result).compact))
  | _, .quiet => ""

end Report

namespace Failure

/-- Where more is to be said about a failure: the place of a statement, or all problems. -/
def detail? : Failure → Option Json
  | statement error => some (.object [("path", .text error.path)])
  | configProblems _ problems =>
    some (.object [("errors", Json.ofTexts (problems.map Config.Problem.message))])
  | _ => none

/-- The envelope of a failure. -/
def envelope (failure : Failure) : Json :=
  let detail := match failure.detail? with
    | some detail => [("data", detail)]
    | none => []
  .object
    [("jsonrpc", .text "2.0"),
     ("error", .object
       ([("code", Json.ofInt (-32000 - failure.exitCode)), ("message", .text failure.message)]
         ++ detail)),
     ("id", .null)]

/-- A failure as lines. -/
def lines : Failure → List String
  | failure@(configProblems _ problems) =>
    ("error: " ++ failure.message) :: problems.map (fun problem => "  - " ++ problem.message)
  | failure => ["error: " ++ failure.message]

/-- What a failed run leaves behind. -/
def outcome (mode : OutputMode) (failure : Failure) : Outcome :=
  match mode with
  | .json => ⟨failure.exitCode, Report.printLines [failure.envelope.compact], ""⟩
  | _ => ⟨failure.exitCode, "", Report.printLines failure.lines⟩

end Failure

/-- What a run leaves behind. -/
def Outcome.of (mode : OutputMode) : Except Failure Report → Outcome
  | .ok report => ⟨report.exitCode, report.print mode, ""⟩
  | .error failure => failure.outcome mode

end RollConditions
