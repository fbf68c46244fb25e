/-
  JSON values.

  A number keeps its kind: a whole number that fits 64 bits, with or without a sign, stays a whole
  number, and every other number is a finite binary64 one; `2` and `2.0` are different values.  An
  object is a list of fields.  Objects that were read have ascending names, each once (`Json.ofFields`);
  objects that are only written, such as the reports of the command line, have their fields in the
  order in which they are to appear.
-/
import RollConditions.Binary64.Basic
import RollConditions.Catalog

namespace RollConditions

namespace Json

/-- The whole numbers that a document keeps as whole numbers: those of 64 bits, signed or unsigned. -/
def IsWholeRange (value : Int) : Prop := -0x8000000000000000 ≤ value ∧ value < 0x10000000000000000

instance (value : Int) : Decidable (IsWholeRange value) :=
  inferInstanceAs (Decidable (_ ∧ _))

/-- A number of a JSON document. -/
inductive Number where
  /-- A whole number of 64 bits. -/
  | whole (value : Int) (inRange : IsWholeRange value)
  /-- A finite binary64 number. -/
  | float (negative : Bool) (magnitude : Magnitude)
deriving DecidableEq

namespace Number

/-- The number as a binary64 one: a whole number is rounded to the nearest. -/
def toBinary64 : Number → Binary64
  | .whole value _ => .ofInt value
  | .float negative magnitude => .finite negative magnitude

end Number

end Json

/-- A JSON value. -/
inductive Json where
  | null
  | bool (value : Bool)
  | number (value : Json.Number)
  | text (value : String)
  | list (items : List Json)
  /-- Fields in the order in which they are written. -/
  | object (fields : List (String × Json))
deriving Inhabited

namespace Json

/-- Induction over values: what holds of a list may rest on what holds of each of its items, and what
    holds of an object on what holds of the value of each field. -/
@[induction_eliminator]
theorem induction {motive : Json → Prop}
    (null : motive .null)
    (bool : ∀ value, motive (.bool value))
    (number : ∀ value, motive (.number value))
    (text : ∀ value, motive (.text value))
    (list : ∀ items, (∀ item ∈ items, motive item) → motive (.list items))
    (object : ∀ fields, (∀ field ∈ fields, motive field.2) → motive (.object fields))
    (value : Json) : motive value :=
  @Json.rec motive (fun items => ∀ item ∈ items, motive item)
    (fun fields => ∀ field ∈ fields, motive field.2) (fun field => motive field.2)
    null bool number text list object
    (fun _ h => absurd h List.not_mem_nil)
    (fun _ _ hitem hrest _ h => (List.mem_cons.mp h).elim (fun heq => heq ▸ hitem) (hrest _))
    (fun _ h => absurd h List.not_mem_nil)
    (fun _ _ hfield hrest _ h => (List.mem_cons.mp h).elim (fun heq => heq ▸ hfield) (hrest _))
    (fun _ _ hvalue => hvalue)
    value

/-- The object with the given fields in ascending order of their names; of two fields of one name the
    later one counts. -/
def ofFields (fields : List (String × Json)) : Json := .object (Catalog.ofList fields).entries

/-- The value of a field. -/
def field? (name : String) : Json → Option Json
  | .object fields => fields.lookup name
  | _ => none

/-- A binary64 number as a JSON value; what is not finite has no JSON number and becomes null. -/
def ofBinary64 : Binary64 → Json
  | .finite negative magnitude => .number (.float negative magnitude)
  | _ => .null

/-- A natural number as a JSON value; one past 64 bits is rounded to a binary64 number. -/
def ofNat (value : Nat) : Json :=
  if h : IsWholeRange value then .number (.whole value h) else ofBinary64 (.ofInt value)

/-- A whole number as a JSON value; one past 64 bits is rounded to a binary64 number. -/
def ofInt (value : Int) : Json :=
  if h : IsWholeRange value then .number (.whole value h) else ofBinary64 (.ofInt value)

/-- A list of texts. -/
def ofTexts (texts : List String) : Json := .list (texts.map .text)

end Json

end RollConditions
