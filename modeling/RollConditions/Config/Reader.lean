/-
  Reading the values of this library out of documents.
-/
import RollConditions.Config.Basic
import RollConditions.Document.Relaxed
import RollConditions.Document.Strict

namespace RollConditions

open Document

namespace Settings

/-- Settings as a record. -/
def record (dialect : Dialect) : Dialect.Record Settings where
  name := "Settings"
  initial := ⟨[], false⟩
  fields :=
    [("base_facts", fun room settings node => do
        return { settings with baseFacts := ← dialect.readTexts room node }),
     ("show_facts", fun _ settings node => do
        return { settings with showFacts := ← dialect.readBool node })]

end Settings

namespace Config

/-- A configuration as a record. -/
def record (dialect : Dialect) : Dialect.Record Config where
  name := "Config"
  initial := empty
  fields :=
    [("predicates", fun room config node => do
        return { config with predicates := ← dialect.readMap dialect.readJson room node }),
     ("facts", fun room config node => do
        return { config with facts := ← dialect.readMap dialect.readTexts room node }),
     ("settings", fun room config node => do
        return { config with
          settings := ← dialect.readRecord (Settings.record dialect) room node })]

/-- A configuration out of a node. -/
def ofNode (dialect : Dialect) (room : Room) (node : Node) : Except Fault Config :=
  dialect.readRecord (record dialect) room node

/-- The configuration that a text of some kind writes. -/
def parse (format : Format) (text : String) : Except Fault Config := format.read ofNode text

end Config

namespace RollOptions

/-- Roll options out of a node: a list of texts. -/
def ofNode (dialect : Dialect) (room : Room) (node : Node) : Except Fault RollOptions :=
  (dialect.readTexts room node).map ofList

/-- The roll options that a text of some kind writes. -/
def parse (format : Format) (text : String) : Except Fault RollOptions := format.read ofNode text

/-- The roll options as they are written. -/
def toJson (options : RollOptions) : Json := Json.ofTexts options.sorted

end RollOptions

namespace Statement

/-- A statement out of a node. -/
def ofNode (dialect : Dialect) (room : Room) (node : Node) : Except Fault Statement := do
  let raw ← dialect.readJson room node
  (read raw).mapError Fault.statement

/-- The statement that a text of some kind writes. -/
def parse (format : Format) (text : String) : Except Fault Statement := format.read ofNode text

end Statement

namespace Predicate

/-- A predicate out of a node. -/
def ofNode (dialect : Dialect) (room : Room) (node : Node) : Except Fault Predicate := do
  let raw ← dialect.readJson room node
  (read raw).mapError Fault.statement

/-- The predicate that a text of some kind writes. -/
def parse (format : Format) (text : String) : Except Fault Predicate := format.read ofNode text

end Predicate

end RollConditions
