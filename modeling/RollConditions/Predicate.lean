/-
  Predicates: lists of statements that have to hold together.

  A raw predicate is a list of raw statements, or a single one for short.  Places inside it begin with
  the position of a statement, `[0]` for the single one.  To a reader, statements and predicates are shown
  as `and(a, not(b))`, `if(a, then: b)`, `self:level >= 5`.
-/
import RollConditions.Binary64.Layout
import RollConditions.Statement.Raw
import RollConditions.Statement.Reader
import RollConditions.Statement.Truth

namespace RollConditions

/-! ## Statements as they are shown -/

namespace Operand

/-- A field as its path, a number without an exponent. -/
def text : Operand → String
  | field path => path
  | literal value => Layout.plain.text value

end Operand

namespace Statement

/-- A word with a list of items after it. -/
def listed (word : String) (items : List String) : String :=
  word ++ "(" ++ ", ".intercalate items ++ ")"

mutual

/-- A statement as it is shown. -/
def text : Statement → String
  | atom fact => fact
  | not inner => "not(" ++ text inner ++ ")"
  | group connective items => listed connective.key (texts items)
  | implication condition conclusion =>
    "if(" ++ text condition ++ ", then: " ++ text conclusion ++ ")"
  | comparison relation left right => left.text ++ " " ++ relation.sign ++ " " ++ right.text

/-- The statements of a list as they are shown. -/
def texts : List Statement → List String
  | [] => []
  | item :: rest => text item :: texts rest

end

end Statement

/-! ## Predicates -/

/-- Statements that have to hold together; none at all hold always. -/
structure Predicate where
  statements : List Statement
deriving Inhabited

namespace Predicate

/-- The predicate of raw statements; the first that is none is reported, those after it are not read. -/
def ofRawStatements (raws : List Json) : Except StatementError Predicate :=
  (Statement.readItemsAt "" 0 raws).map Predicate.mk

/-- The predicate that a raw value stands for. -/
def read : Json → Except StatementError Predicate
  | .list raws => ofRawStatements raws
  | raw => ofRawStatements [raw]

/-- Whether all statements hold of the facts. -/
def holds {σ : Type} [FactSet σ] (facts : σ) (predicate : Predicate) : Bool :=
  predicate.statements.all (Statement.holds facts)

/-- A predicate as it is shown: a single statement for itself, any other number as an `and`. -/
def text (predicate : Predicate) : String :=
  match predicate.statements with
  | [statement] => statement.text
  | statements => Statement.listed Connective.all.key (Statement.texts statements)

/-- The raw form of a predicate, always a list. -/
def toRaw (predicate : Predicate) : Json := .list (Statement.listToRaw predicate.statements)

/-- The raw form of a predicate, provided that nothing is lost in it. -/
def written? (predicate : Predicate) : Except WriteError Json :=
  if Statement.listIsFinite predicate.statements then .ok predicate.toRaw
  else .error .literalNotFinite

/-- The same statements, with operands that agree. -/
def agrees (a b : Predicate) : Bool := Statement.listAgrees a.statements b.statements

end Predicate

end RollConditions
