/-
  Runs of the program.

  A run is a function of the command line and of what it finds around it: the environment, with the
  disk.  Testing loads the configuration first, then reads the predicate, then gathers the facts; the
  first of these that fails is what the run reports.
-/
import RollConditions.Command.Line
import RollConditions.Command.Report

namespace RollConditions

namespace Run

/-! ## What is asked for -/

/-- The predicate in a text of JSON5. -/
def inlinePredicate (argument : String) : Except Failure Predicate := do
  let raw ← (Document.json5.readJson argument).mapError (Failure.notJson5 argument)
  (Predicate.read raw).mapError Failure.statement

/-- The predicate under a name. -/
def namedPredicate (config : Config) (name : String) : Except Failure Predicate :=
  match config.predicate? name with
  | some predicate => predicate.mapError Failure.statement
  | none => .error (.unknownName .predicate name config.predicates.names)

/-- The predicate that an argument asks for: after an at sign the name of one, else one itself. -/
def predicate (config : Config) (argument : String) : Except Failure Predicate :=
  match argument.toList with
  | '@' :: name => namedPredicate config (String.ofList name)
  | _ => inlinePredicate argument

/-- The facts under a name. -/
def namedFacts (config : Config) (name : String) : Except Failure RollOptions :=
  match config.factSet? name with
  | some facts => .ok facts
  | none => .error (.unknownName .factSet name config.facts.names)

/-- The facts in a file of strict JSON. -/
def factsOfFile (disk : Disk) (path : String) : Except Failure RollOptions := do
  let text ← (disk.readText path).mapError (Failure.factsUnreadable path)
  (RollOptions.parse Document.strictJson text).mapError (Failure.factsUnparsable path)

/-- All facts of a test: the base facts, single ones, named sets, and those of a file. -/
def facts (disk : Disk) (config : Config) (single names : List String) (file : Option String) :
    Except Failure RollOptions := do
  let sets ← names.mapM (namedFacts config)
  let ofFile ← match file with
    | some path => factsOfFile disk path
    | none => .ok RollOptions.empty
  let named := sets.foldl (fun options set => options.extend set.sorted)
    (config.baseFacts.extend single)
  return named.extend ofFile.sorted

/-! ## The commands -/

/-- The configuration that applies. -/
def config (environment : Environment) (override : Option String) : Except Failure Config :=
  (Config.load environment override).mapError Failure.config

/-- A test of a predicate on facts. -/
def test (environment : Environment) (override : Option String) (argument : String)
    (single names : List String) (file : Option String) : Except Failure Report := do
  let config ← config environment override
  let predicate ← predicate config argument
  let options ← facts environment.disk config single names file
  let shown := if config.settings.showFacts then some options.sorted else none
  return .tested predicate (predicate.holds options) shown

/-- A validation of the configuration. -/
def validateConfig (environment : Environment) (override : Option String) :
    Except Failure Report := do
  match ← (Config.existingPath environment override).mapError Failure.config with
  | none => return .valid .defaults
  | some path =>
    match ← (Config.verify environment.disk path).mapError Failure.config with
    | [] => return .valid (.file path)
    | problems => throw (.configProblems path problems)

/-- A named predicate as it is listed. -/
def listed (entry : String × Json) : ListedPredicate :=
  ⟨entry.1,
    match Config.readPredicate entry.1 entry.2 with
    | .ok predicate => .ok predicate.text
    | .error error => .error error.message⟩

/-- A listing of what the configuration names. -/
def list (environment : Environment) (override : Option String) : Except Failure Report := do
  let config ← config environment override
  return .listing (config.predicates.entries.map listed) config.facts.entries

/-- The report of an action. -/
def report (environment : Environment) (override : Option String) :
    Action → Except Failure Report
  | .test argument single names file => test environment override argument single names file
  | .validate (some argument) => do return .valid (.inline (← inlinePredicate argument))
  | .validate none => validateConfig environment override
  | .list => list environment override
  | .completions shell => .ok (.script (environment.completions shell))

end Run

namespace Invocation

/-- How a run prints: quiet before JSON before lines, and without a choice lines on a terminal only. -/
def mode (invocation : Invocation) (onTerminal : Bool) : OutputMode :=
  if invocation.quiet then .quiet
  else if invocation.json then .json
  else if invocation.noJson || onTerminal then .lines
  else .json

/-- The paths that a run looks up: the configuration's, and that of a file of facts. -/
def paths (environment : Environment) (invocation : Invocation) : List String :=
  let config := match Config.path environment invocation.config with
    | .ok path => [path]
    | .error _ => []
  let facts := match invocation.action with
    | .test _ _ _ (some path) => [path]
    | _ => []
  config ++ facts

/-- The run that a command line asks for. -/
def run (environment : Environment) (invocation : Invocation) : Outcome :=
  .of (invocation.mode environment.onTerminal)
    (Run.report environment invocation.config invocation.action)

end Invocation

end RollConditions
