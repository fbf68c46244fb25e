/-
  Statements: the conditions that this library reads, tests and writes.

  A statement is about a set of facts.  It asks for a fact by name, or compares two numbers, or combines
  other statements: by negation, by implication, or by a connective over a list, which counts how many
  items hold and asks for all of them, any, none, or exactly one.  An operand of a comparison is a
  number, or a field whose value the facts give.
-/
import RollConditions.Binary64.Basic

namespace RollConditions

/-- How many of a list of statements have to hold. -/
inductive Connective where
  /-- Every item. -/
  | all
  /-- At least one item. -/
  | any
  /-- No item. -/
  | none
  /-- Exactly one item. -/
  | one
deriving DecidableEq, Inhabited

/-- The relation that a comparison asks for. -/
inductive Comparison where
  | greater
  | greaterEqual
  | less
  | lessEqual
deriving DecidableEq, Inhabited

/-- One side of a comparison. -/
inductive Operand where
  /-- The value that the facts give to a field. -/
  | field (path : String)
  /-- A number. -/
  | literal (value : Binary64)
deriving DecidableEq, Inhabited

/-- A condition on a set of facts. -/
inductive Statement where
  /-- A fact is present. -/
  | atom (fact : String)
  /-- A statement does not hold. -/
  | not (inner : Statement)
  /-- As many items hold as the connective asks for. -/
  | group (connective : Connective) (items : List Statement)
  /-- If the first holds, so does the second. -/
  | implication (condition conclusion : Statement)
  /-- Two numbers stand in a relation. -/
  | comparison (relation : Comparison) (left right : Operand)
deriving Inhabited

/-- Induction over statements: what holds of a group may rest on what holds of each of its items. -/
@[induction_eliminator]
theorem Statement.induction {motive : Statement → Prop}
    (atom : ∀ fact, motive (.atom fact))
    (not : ∀ inner, motive inner → motive (.not inner))
    (group : ∀ connective items, (∀ item ∈ items, motive item) → motive (.group connective items))
    (implication : ∀ condition conclusion,
      motive condition → motive conclusion → motive (.implication condition conclusion))
    (comparison : ∀ relation left right, motive (.comparison relation left right))
    (statement : Statement) : motive statement :=
  @Statement.rec motive (fun items => ∀ item ∈ items, motive item) atom not group implication comparison
    (fun _ h => absurd h List.not_mem_nil)
    (fun _ _ hitem hrest _ h => (List.mem_cons.mp h).elim (fun heq => heq ▸ hitem) (hrest _))
    statement

namespace Connective

/-- The word for a connective, as a key and when shown. -/
def key : Connective → String
  | all => "and"
  | any => "or"
  | none => "nor"
  | one => "xor"

end Connective

namespace Comparison

/-- The word for a relation, as a key. -/
def key : Comparison → String
  | greater => "gt"
  | greaterEqual => "gte"
  | less => "lt"
  | lessEqual => "lte"

/-- The sign for a relation, when shown. -/
def sign : Comparison → String
  | greater => ">"
  | greaterEqual => ">="
  | less => "<"
  | lessEqual => "<="

/-- The four relations, in the order in which their keys are listed. -/
def every : List Comparison := [greater, greaterEqual, less, lessEqual]

/-- The relation with a key. -/
def ofKey? (key : String) : Option Comparison := every.find? (fun relation => relation.key == key)

/-- Whether two numbers stand in the relation; the not-a-number stands in none. -/
def holds : Comparison → Binary64 → Binary64 → Bool
  | greater, a, b => b.lt a
  | greaterEqual, a, b => b.le a
  | less, a, b => a.lt b
  | lessEqual, a, b => a.le b

end Comparison

/-! ## Equality of trees -/

namespace Operand

/-- The same field, or numerically equal numbers: the two zeros agree, the not-a-number agrees with
    nothing. -/
def agrees : Operand → Operand → Bool
  | field a, field b => a == b
  | literal a, literal b => a.eq b
  | _, _ => false

end Operand

namespace Statement

mutual

/-- The same tree, with operands that agree. -/
def agrees : Statement → Statement → Bool
  | atom a, atom b => a == b
  | not a, not b => agrees a b
  | group c as, group d bs => c == d && listAgrees as bs
  | implication a b, implication c d => agrees a c && agrees b d
  | comparison r a b, comparison s c d => r == s && a.agrees c && b.agrees d
  | _, _ => false

/-- Trees that agree one by one. -/
def listAgrees : List Statement → List Statement → Bool
  | [], [] => true
  | a :: as, b :: bs => agrees a b && listAgrees as bs
  | _, _ => false

end

end Statement

end RollConditions
