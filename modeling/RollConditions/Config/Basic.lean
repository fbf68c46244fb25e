/-
  Configurations: predicates and fact sets under names, and settings.

  A named predicate is kept as the raw value that was written, and is read when it is asked for, so one
  that is wrong does not stand in the way of the others.  The base facts of the settings belong to every
  set of facts.
-/
import RollConditions.Fact.RollOptions
import RollConditions.Predicate

namespace RollConditions

/-- What applies to every test. -/
structure Settings where
  /-- Facts that belong to every set of facts. -/
  baseFacts : List String
  /-- Whether a test shows the facts it was made on. -/
  showFacts : Bool
deriving Inhabited

/-- A configuration. -/
structure Config where
  /-- Raw predicates by name. -/
  predicates : Catalog Json
  /-- Fact sets by name. -/
  facts : Catalog (List String)
  settings : Settings
deriving Inhabited

namespace Config

/-- Nothing named, no base facts, no facts shown. -/
def empty : Config := ⟨Catalog.empty, Catalog.empty, ⟨[], false⟩⟩

/-- Where a named predicate stands in the configuration. -/
def predicatePlace (name : String) : String := "predicates." ++ name

/-- The predicate that stands under a name as the given raw value. -/
def readPredicate (name : String) (raw : Json) : Except StatementError Predicate :=
  (Predicate.read raw).mapError (StatementError.within (predicatePlace name))

/-- The predicate under a name, if there is one. -/
def predicate? (config : Config) (name : String) : Option (Except StatementError Predicate) :=
  (config.predicates.get? name).map (readPredicate name)

/-- The facts that belong to every set. -/
def baseFacts (config : Config) : RollOptions := RollOptions.ofList config.settings.baseFacts

/-- The facts under a name together with the base facts, if there are any under the name. -/
def factSet? (config : Config) (name : String) : Option RollOptions :=
  (config.facts.get? name).map config.baseFacts.extend

/-- The configuration as it is written. -/
def toJson (config : Config) : Json :=
  .object
    [("predicates", .object config.predicates.entries),
     ("facts", .object (config.facts.entries.map (fun entry => (entry.1, Json.ofTexts entry.2)))),
     ("settings",
       .object
         [("base_facts", Json.ofTexts config.settings.baseFacts),
          ("show_facts", .bool config.settings.showFacts)])]

/-! ## Verification -/

/-- Something wrong with a configuration that could be read. -/
inductive Problem where
  /-- A named predicate that is none. -/
  | statement (error : StatementError)
  /-- An empty fact, at a position of a list that stands somewhere. -/
  | emptyFact (place : String) (position : Nat)

/-- The wording of a problem. -/
def Problem.message : Problem → String
  | statement error => error.path ++ ": " ++ error.reason
  | emptyFact place position => place ++ "[" ++ toString position ++ "]: empty roll option"

/-- The problem of a named predicate, if it has one. -/
def predicateProblem? (entry : String × Json) : Option Problem :=
  match readPredicate entry.1 entry.2 with
  | .ok _ => none
  | .error error => some (.statement error)

/-- A problem for each empty fact of a list that stands somewhere. -/
def emptyFacts (place : String) (facts : List String) : List Problem :=
  facts.zipIdx.filterMap (fun (fact, position) =>
    if fact.isEmpty then some (.emptyFact place position) else none)

/-- Everything that is wrong with a configuration: the named predicates, then the base facts, then the
    named fact sets. -/
def problems (config : Config) : List Problem :=
  config.predicates.entries.filterMap predicateProblem?
    ++ emptyFacts "settings.base_facts" config.settings.baseFacts
    ++ config.facts.entries.flatMap (fun entry => emptyFacts ("facts." ++ entry.1) entry.2)

end Config

end RollConditions
