/-
  Reading a raw statement.

  A text is a fact; an object with one key is a negation, a connective over a list, or a relation
  between two operands; an object with the keys `if` and `then` is an implication.  All else is refused,
  and the first misfit in the order of the document is reported: items of a list by position, the
  condition before the conclusion, the left operand before the right one.

  Every reader is told the place of the value that it reads, as a text, and passes on the place of each
  part; an error is reported at the place of the value that it shows.
-/
import RollConditions.Statement.Error

namespace RollConditions

namespace Operand

/-- The operand that a raw value at a place stands for. -/
def readAt (place : String) : Json → Except StatementError Operand
  | .text path => .ok (.field path)
  | .number value => .ok (.literal value.toBinary64)
  | other => .error ⟨place, .notOperand, other⟩

end Operand

namespace Statement

/-- The comparison that the value of a relation's key stands for; the place is that of the value. -/
def readComparisonAt (place : String) (relation : Comparison) : Json → Except StatementError Statement
  | .list [left, right] => do
    let left ← Operand.readAt (Step.extend place (.item 0)) left
    let right ← Operand.readAt (Step.extend place (.item 1)) right
    return .comparison relation left right
  | .list items => .error ⟨place, .operandCount relation items.length, .list items⟩
  | other => .error ⟨place, .notOperands relation, other⟩

/-- Whether a key is half of an implication. -/
def isHalf (key : String) : Bool :=
  key == Keyword.condition.text || key == Keyword.conclusion.text

/-- What is wrong with the fields of an object that is not one of the statements' shapes. -/
def fieldsDefect (fields : List (String × Json)) : Defect :=
  let keys := fields.map (·.1)
  if keys.any isHalf then
    match keys.find? (fun key => !isHalf key) with
    | some other => .keyBesideImplication other
    | none => if keys.contains Keyword.condition.text then .conditionAlone else .conclusionAlone
  else
    match keys with
    | [] => .emptyObject
    | [key] => .unknownKey key
    | _ => .severalKeys keys

mutual

/-- The statement that a raw value at a place stands for. -/
def readAt (place : String) : Json → Except StatementError Statement
  | .text fact => .ok (.atom fact)
  | .object [(key, value)] =>
    match Keyword.ofText? key with
    | some .negation => (readAt (Step.extend place (.key .negation)) value).map .not
    | some (.group connective) =>
      let inner := Step.extend place (.key (.group connective))
      match value with
      | .list items => (readItemsAt inner 0 items).map (.group connective)
      | _ => .error ⟨inner, .notItems connective, value⟩
    | some (.comparison relation) =>
      readComparisonAt (Step.extend place (.key (.comparison relation))) relation value
    | _ => .error ⟨place, fieldsDefect [(key, value)], .object [(key, value)]⟩
  | .object [(first, a), (second, b)] =>
    if first = Keyword.condition.text ∧ second = Keyword.conclusion.text then do
      let condition ← readAt (Step.extend place (.key .condition)) a
      let conclusion ← readAt (Step.extend place (.key .conclusion)) b
      return .implication condition conclusion
    else if first = Keyword.conclusion.text ∧ second = Keyword.condition.text then do
      let condition ← readAt (Step.extend place (.key .condition)) b
      let conclusion ← readAt (Step.extend place (.key .conclusion)) a
      return .implication condition conclusion
    else .error ⟨place, fieldsDefect [(first, a), (second, b)], .object [(first, a), (second, b)]⟩
  | .object fields => .error ⟨place, fieldsDefect fields, .object fields⟩
  | .list items => .error ⟨place, .strayList, .list items⟩
  | other => .error ⟨place, .notStatement, other⟩

/-- The statements that the raw values of a list at a place stand for, the first of them at the given
    position of the list. -/
def readItemsAt (place : String) (position : Nat) : List Json → Except StatementError (List Statement)
  | [] => .ok []
  | raw :: rest => do
    let item ← readAt (Step.extend place (.item position)) raw
    let items ← readItemsAt place (position + 1) rest
    return item :: items

end

/-- The statement that a raw value on its own stands for. -/
def read (raw : Json) : Except StatementError Statement := readAt "" raw

end Statement

end RollConditions
