/-
  What is wrong with a raw statement, and where.

  A `Defect` is the cause, with one function for its wording.  A `StatementError` is what is reported:
  a defect, the value at fault, and the place of that value as a text.
-/
import RollConditions.Json.Printer
import RollConditions.Statement.Keyword

namespace RollConditions

/-- A reason why a JSON value is no raw statement, or no operand. -/
inductive Defect where
  /-- A list where no connective asks for one. -/
  | strayList
  /-- A value that is neither a text nor an object. -/
  | notStatement
  /-- An object without a key. -/
  | emptyObject
  /-- An object with several keys, none of them half of an implication. -/
  | severalKeys (keys : List String)
  /-- A key that no statement has. -/
  | unknownKey (key : String)
  /-- A key beside the halves of an implication. -/
  | keyBesideImplication (key : String)
  /-- A condition without a conclusion. -/
  | conditionAlone
  /-- A conclusion without a condition. -/
  | conclusionAlone
  /-- A connective on something that is not a list. -/
  | notItems (connective : Connective)
  /-- A relation on something that is not a list. -/
  | notOperands (relation : Comparison)
  /-- A relation on a list that is too short or too long. -/
  | operandCount (relation : Comparison) (count : Nat)
  /-- An operand that is neither a text nor a number. -/
  | notOperand
  /-- A reason in a caller's own words. -/
  | stated (reason : String)
deriving DecidableEq, Inhabited

namespace Defect

/-- A key between single quotes. -/
def quotedKey (key : String) : String := "'" ++ key ++ "'"

/-- The wording of a defect. -/
def reason : Defect → String
  | strayList => "a list is only allowed as the value of 'and', 'or', 'nor' or 'xor'"
  | notStatement => "expected a string or an object"
  | emptyObject => "empty object"
  | severalKeys keys =>
    "expected exactly one operator, found keys " ++ ", ".intercalate (keys.map quotedKey)
  | unknownKey key =>
    match Keyword.suggestion? key with
    | some other => "unknown key " ++ quotedKey key ++ ", did you mean " ++ quotedKey other ++ "?"
    | none => "unknown key " ++ quotedKey key
  | keyBesideImplication key => "unexpected key " ++ quotedKey key ++ " alongside 'if'/'then'"
  | conditionAlone => "'if' requires a matching 'then'"
  | conclusionAlone => "'then' requires a matching 'if'"
  | notItems connective => quotedKey connective.key ++ " must be a list of statements"
  | notOperands relation => quotedKey relation.key ++ " must be a list of 2 operands"
  | operandCount relation count =>
    quotedKey relation.key ++ " takes exactly 2 operands, got " ++ toString count
  | notOperand => "operand must be a number or a field path"
  | stated reason => reason

end Defect

/-- A value inside a raw statement that does not fit where it stands. -/
structure StatementError where
  /-- The place of the value; empty for a whole statement on its own. -/
  path : String
  /-- What is wrong with the value. -/
  defect : Defect
  /-- The value. -/
  value : Json
deriving Inhabited

namespace StatementError

/-- The error seen from a larger document, in which the statement stands at the given place. -/
def within (place : String) (error : StatementError) : StatementError :=
  { error with path := place ++ error.path }

/-- The wording of the defect. -/
def reason (error : StatementError) : String := error.defect.reason

/-- The whole message. -/
def message (error : StatementError) : String :=
  let place := if error.path.isEmpty then "" else " at " ++ error.path
  "invalid statement" ++ place ++ ": " ++ error.reason ++ " (got " ++ error.value.compact ++ ")"

end StatementError

end RollConditions
