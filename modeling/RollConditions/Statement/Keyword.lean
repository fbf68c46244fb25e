/-
  The keys of a raw statement, and the places inside one.

  A raw statement is a JSON value; each key that its objects may have is a `Keyword`.  A `Step` goes one
  level down, by a key or by a position in a list, and a list of steps is a place.  The text of a place
  is what error messages show, such as `[0].or[2].not`.
-/
import RollConditions.Json.Basic
import RollConditions.Statement.Basic
import RollConditions.Text.EditDistance

namespace RollConditions

/-- A key of a raw statement. -/
inductive Keyword where
  /-- `not`, with one statement. -/
  | negation
  /-- The key of a connective, with a list of statements. -/
  | group (connective : Connective)
  /-- `if`, one half of an implication. -/
  | condition
  /-- `then`, the other half of an implication. -/
  | conclusion
  /-- The key of a relation, with two operands. -/
  | comparison (relation : Comparison)
deriving DecidableEq, Inhabited

namespace Keyword

/-- The text of a key. -/
def text : Keyword → String
  | negation => "not"
  | group connective => connective.key
  | condition => "if"
  | conclusion => "then"
  | comparison relation => relation.key

/-- Every key, in the order in which they are listed and suggested. -/
def every : List Keyword :=
  [negation, group .all, group .any, group .none, group .one, condition, conclusion,
    comparison .greater, comparison .greaterEqual, comparison .less, comparison .lessEqual]

/-- The keyword with a text. -/
def ofText? (text : String) : Option Keyword := every.find? (fun keyword => keyword.text == text)

/-- Every key is listed. -/
theorem mem_every (keyword : Keyword) : keyword ∈ every := by
  rcases keyword with _ | connective | _ | _ | relation
  · decide
  · cases connective <;> decide
  · decide
  · decide
  · cases relation <;> decide

/-- A key is found by its text. -/
theorem ofText?_text (keyword : Keyword) : ofText? keyword.text = some keyword := by
  have hevery : ∀ listed ∈ every, ofText? listed.text = some listed := by decide
  exact hevery keyword (mem_every keyword)

/-- The key with a text is the one that has it. -/
theorem ofText?_eq_some_iff {text : String} {keyword : Keyword} :
    ofText? text = some keyword ↔ text = keyword.text := by
  constructor
  · intro h
    have hfound := List.find?_some h
    exact (beq_iff_eq.mp hfound).symm
  · rintro rfl
    exact ofText?_text keyword

/-- Different keys have different texts. -/
theorem text_inj {a b : Keyword} (h : a.text = b.text) : a = b := by
  have hfound : some a = some b := by rw [← ofText?_text a, h, ofText?_text b]
  exact Option.some.inj hfound

/-- The longest distance at which a key is taken for a misspelling. -/
def nearby : Nat := 2

/-- The key to suggest for one that is not known: the nearest one nearby, provided that its distance is
    less than the number of bytes of the text; the first of those equally near. -/
def suggestion? (text : String) : Option String :=
  Text.nearest? text (fun distance => distance ≤ nearby && distance < text.utf8ByteSize)
    (every.map Keyword.text)

end Keyword

/-! ## Places -/

/-- One level down inside a raw statement. -/
inductive Step where
  /-- To the value of a key. -/
  | key (keyword : Keyword)
  /-- To an item of a list. -/
  | item (position : Nat)
deriving DecidableEq

namespace Step

/-- The text of a place one step further. -/
def extend (place : String) : Step → String
  | key keyword => if place.isEmpty then keyword.text else place ++ "." ++ keyword.text
  | item position => place ++ "[" ++ toString position ++ "]"

/-- The text of a place that several steps lead to. -/
def text (steps : List Step) : String := steps.foldl extend ""

/-- What a step leads to inside a value. -/
def follow? (value : Json) : Step → Option Json
  | key keyword => value.field? keyword.text
  | item position =>
    match value with
    | .list items => items[position]?
    | _ => none

/-- What several steps lead to inside a value. -/
def followAll? (value : Json) : List Step → Option Json
  | [] => some value
  | step :: rest => (step.follow? value).bind (followAll? · rest)

end Step

end RollConditions
