/-
  The raw form of a statement: the JSON value that it is written as.

  A literal that is a whole number below `2 ^ 63` is written as a whole number, any other finite one as
  a binary64 number.  A literal that is not finite has no raw form: `toRaw` leaves a null in its place,
  which no reader takes for an operand, and `written?` refuses the statement.
-/
import RollConditions.Json.Basic
import RollConditions.Statement.Keyword

namespace RollConditions

namespace Operand

/-- Whether a literal is a finite number; a field always is. -/
def isFinite : Operand → Bool
  | field _ => true
  | literal value => value.isFinite

/-- The raw form of a literal. -/
def literalToRaw (value : Binary64) : Json :=
  match value.whole? with
  | some whole => if whole.natAbs < 0x8000000000000000 then Json.ofInt whole else Json.ofBinary64 value
  | none => Json.ofBinary64 value

/-- The raw form of an operand. -/
def toRaw : Operand → Json
  | field path => .text path
  | literal value => literalToRaw value

end Operand

namespace Statement

mutual

/-- Whether every literal of a statement is a finite number. -/
def isFinite : Statement → Bool
  | atom _ => true
  | not inner => isFinite inner
  | group _ items => listIsFinite items
  | implication condition conclusion => isFinite condition && isFinite conclusion
  | comparison _ left right => left.isFinite && right.isFinite

/-- Whether every literal of some statements is a finite number. -/
def listIsFinite : List Statement → Bool
  | [] => true
  | item :: rest => isFinite item && listIsFinite rest

end

/-- All literals of a list are finite if those of each item are. -/
@[simp] theorem listIsFinite_eq_all (items : List Statement) :
    listIsFinite items = items.all isFinite := by
  induction items with
  | nil => rfl
  | cons item rest ih => rw [listIsFinite, ih, List.all_cons]

mutual

/-- The raw form of a statement. -/
def toRaw : Statement → Json
  | atom fact => .text fact
  | not inner => .object [(Keyword.negation.text, toRaw inner)]
  | group connective items =>
    .object [((Keyword.group connective).text, .list (listToRaw items))]
  | implication condition conclusion =>
    .object [(Keyword.condition.text, toRaw condition), (Keyword.conclusion.text, toRaw conclusion)]
  | comparison relation left right =>
    .object [((Keyword.comparison relation).text, .list [left.toRaw, right.toRaw])]

/-- The raw forms of some statements. -/
def listToRaw : List Statement → List Json
  | [] => []
  | item :: rest => toRaw item :: listToRaw rest

end

/-- The raw forms of a list are those of its items. -/
@[simp] theorem listToRaw_eq_map (items : List Statement) : listToRaw items = items.map toRaw := by
  induction items with
  | nil => rfl
  | cons item rest ih => rw [listToRaw, ih, List.map_cons]

end Statement

/-- Why a statement cannot be written. -/
inductive WriteError where
  /-- A literal has no JSON number. -/
  | literalNotFinite
deriving DecidableEq

/-- The wording of the refusal. -/
def WriteError.message : WriteError → String
  | .literalNotFinite => "comparison literal is not a finite number"

/-- The raw form of a statement, provided that nothing is lost in it. -/
def Statement.written? (statement : Statement) : Except WriteError Json :=
  if statement.isFinite then .ok statement.toRaw else .error .literalNotFinite

end RollConditions
