/-
  Reading values out of a written document.

  A `Dialect` says what the pieces and digits of a kind of document mean; the readers here go through a
  node from left to right and stop at the first fault.  Each reader is for one shape: a JSON value as it
  is, a text, a list, a map from names, or a record, whose fields have fixed names and may lack.  A value
  of another shape is refused once its first part is read: a scalar as a whole, a list or an object at
  its opening bracket, whatever is in it.  A `Format` adds how a text is cut up, and so has all rules of a
  kind of document, from the first character to the last value.
-/
import RollConditions.Document.Fault
import RollConditions.Document.Token

namespace RollConditions

namespace Document

/-- The value of a number in a document. -/
inductive Amount where
  /-- A whole number of 64 bits. -/
  | whole (value : Int) (inRange : Json.IsWholeRange value)
  /-- A binary64 number. -/
  | float (value : Binary64)

namespace Amount

/-- The value as what was found in place of something else. -/
def toFound : Amount → Found
  | whole value _ => .whole value
  | float value => .float value

/-- The value as a JSON value; what is not finite becomes null. -/
def toJson : Amount → Json
  | whole value inRange => .number (.whole value inRange)
  | float value => Json.ofBinary64 value

end Amount

/-- What the parts of a kind of document mean. -/
structure Dialect where
  /-- The text that pieces make up. -/
  text : List Piece → Except Fault String
  /-- The value of a number. -/
  amount : Numeral → Except Fault Amount
  /-- How many lists and objects may stand inside one another, if there is a limit. -/
  depthLimit : Option Nat
  /-- Whether a record that is written as a list may go on after its last field. -/
  surplusAllowed : Bool
  /-- Whether texts and numbers that nothing is read from must have a value all the same. -/
  checksUnread : Bool
  /-- How faults are worded. -/
  wording : Wording

/-- How many more lists and objects may be entered, if there is a limit. -/
abbrev Room := Option Nat

namespace Room

/-- The room inside one more list or object. -/
def enter : Room → Except Fault Room
  | none => .ok none
  | some 0 => .error .malformed
  | some (left + 1) => .ok (some left)

end Room

namespace Dialect

variable (dialect : Dialect)

/-! ## Shapes -/

/-- A list or an object has to be closed. -/
def close (closed : Bool) : Except Fault Unit := if closed then .ok () else .error .malformed

/-- What a node is, when something else is wanted. -/
def found : Node → Except Fault Found
  | .null => .ok .null
  | .bool value => .ok (.bool value)
  | .number numeral => (dialect.amount numeral).map Amount.toFound
  | .text pieces => (dialect.text pieces).map Found.text
  | .list .. => .ok .list
  | .object .. => .ok .object
  | .broken => .error .malformed

/-- The refusal of a node that is not of the shape that is wanted. -/
def refuse {α : Type} (expected : Expected) (node : Node) : Except Fault α := do
  throw (.wrongShape (← dialect.found node) expected)

/-- A truth value. -/
def readBool : Node → Except Fault Bool
  | .bool value => .ok value
  | node => dialect.refuse .bool node

/-- A text. -/
def readText : Node → Except Fault String
  | .text pieces => dialect.text pieces
  | node => dialect.refuse .text node

/-- A list, each item by the same reader. -/
def readList {α : Type} (item : Room → Node → Except Fault α) (room : Room) :
    Node → Except Fault (List α)
  | .list items closed => do
    let inside ← room.enter
    let values ← items.mapM (item inside)
    close closed
    return values
  | node => dialect.refuse .list node

/-- A list of texts. -/
def readTexts : Room → Node → Except Fault (List String) :=
  dialect.readList (fun _ => dialect.readText)

/-- A map from names, each value by the same reader; of two values under one name the later counts. -/
def readMap {α : Type} (value : Room → Node → Except Fault α) (room : Room) :
    Node → Except Fault (Catalog α)
  | .object fields closed => do
    let inside ← room.enter
    let entries ← fields.mapM (fun field => do
      let name ← dialect.text field.1
      return (name, ← value inside field.2))
    close closed
    return Catalog.ofList entries
  | node => dialect.refuse .object node

/-! ## JSON values -/

mutual

/-- A document as the JSON value that it is. -/
def readJson (room : Room) : Node → Except Fault Json
  | .null => .ok .null
  | .bool value => .ok (.bool value)
  | .number numeral => (dialect.amount numeral).map Amount.toJson
  | .text pieces => (dialect.text pieces).map Json.text
  | .list items closed => do
    let inside ← room.enter
    let values ← readJsonItems inside items
    close closed
    return .list values
  | .object fields closed => do
    let inside ← room.enter
    let entries ← readJsonFields inside fields
    close closed
    return .ofFields entries
  | .broken => .error .malformed

/-- The items of a list as JSON values. -/
def readJsonItems (room : Room) : List Node → Except Fault (List Json)
  | [] => .ok []
  | item :: rest => do
    let value ← readJson room item
    let values ← readJsonItems room rest
    return value :: values

/-- The fields of an object as JSON values with their names. -/
def readJsonFields (room : Room) : List (List Piece × Node) → Except Fault (List (String × Json))
  | [] => .ok []
  | (key, node) :: rest => do
    let name ← dialect.text key
    let value ← readJson room node
    let entries ← readJsonFields room rest
    return (name, value) :: entries

end

/-! ## Values that nothing is read from -/

mutual

/-- A value of any shape, which only has to be written properly. -/
def skim : Node → Except Fault Unit
  | .number numeral => if dialect.checksUnread then do let _ ← dialect.amount numeral else .ok ()
  | .text pieces => if dialect.checksUnread then do let _ ← dialect.text pieces else .ok ()
  | .list items closed => do
    skimItems items
    close closed
  | .object fields closed => do
    skimFields fields
    close closed
  | .broken => .error .malformed
  | _ => .ok ()

/-- The items of a list that nothing is read from. -/
def skimItems : List Node → Except Fault Unit
  | [] => .ok ()
  | item :: rest => do
    skim item
    skimItems rest

/-- The fields of an object that nothing is read from. -/
def skimFields : List (List Piece × Node) → Except Fault Unit
  | [] => .ok ()
  | (key, node) :: rest => do
    if dialect.checksUnread then
      let _ ← dialect.text key
    skim node
    skimFields rest

end

/-! ## Records -/

/-- A shape with named fields, all of which may lack. -/
structure Record (α : Type) where
  /-- The name of the shape. -/
  name : String
  /-- The value if every field lacks. -/
  initial : α
  /-- The names of the fields in order, each with the reader that puts its value in. -/
  fields : List (String × (Room → α → Node → Except Fault α))

/-- One field of an object that is read as a record.  A field of the record may not come twice; a field
    of another name is skimmed. -/
def readField {α : Type} (record : Record α) (room : Room) (state : List String × α)
    (field : List Piece × Node) : Except Fault (List String × α) := do
  let name ← dialect.text field.1
  match record.fields.lookup name with
  | some read =>
    if state.1.contains name then throw (.duplicateField name)
    return (name :: state.1, ← read room state.2 field.2)
  | none =>
    dialect.skim field.2
    return state

/-- A record: an object with some of its fields, or a list with the values of its first fields. -/
def readRecord {α : Type} (record : Record α) (room : Room) : Node → Except Fault α
  | .object fields closed => do
    let inside ← room.enter
    let state ← fields.foldlM (dialect.readField record inside) ([], record.initial)
    close closed
    return state.2
  | .list items closed => do
    let inside ← room.enter
    let value ← (record.fields.zip items).foldlM
      (fun value entry => entry.1.2 inside value entry.2) record.initial
    close (closed && (dialect.surplusAllowed || items.length ≤ record.fields.length))
    return value
  | node => dialect.refuse (.record record.name) node

end Dialect

/-! ## Kinds of documents -/

/-- A kind of document. -/
structure Format where
  /-- How a text is cut into tokens. -/
  lexeme : Char → List Char → Lexeme
  /-- How tokens make up a document. -/
  grammar : Grammar
  /-- What the parts of a document mean. -/
  dialect : Dialect
  /-- Whether a text is looked at as a whole before anything is read from it.  If not, a fault in the
      text counts only when reading comes to it, and after all that is wrong before it. -/
  wholeFirst : Bool

namespace Format

/-- The document that a text writes. -/
def source (format : Format) (text : String) : Source :=
  ofTokens format.grammar (tokensFrom format.lexeme 0 text.toList)

/-- What a reader reads out of a text. -/
def read {α : Type} (format : Format) (reader : Dialect → Room → Node → Except Fault α)
    (text : String) : Except Fault α := do
  let source := format.source text
  if format.wholeFirst then Dialect.close source.clean
  let value ← reader format.dialect format.dialect.depthLimit source.root
  Dialect.close source.clean
  return value

/-- The JSON value that a text writes. -/
def readJson (format : Format) (text : String) : Except Fault Json := format.read Dialect.readJson text

/-- The message for a fault in a document of this kind, without the line and column that a parser may
    put behind it. -/
def message (format : Format) (fault : Fault) : String := fault.message format.dialect.wording

end Format

end Document

end RollConditions
