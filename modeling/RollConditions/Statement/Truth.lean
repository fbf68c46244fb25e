/-
  Whether a statement holds of a set of facts.

  A comparison needs the values of both its operands; where a field has no value, because the facts
  give it none or several, the comparison does not hold, whatever its relation.
-/
import RollConditions.Fact.Set
import RollConditions.Statement.Basic

namespace RollConditions

namespace Connective

/-- Whether exactly one of some truths holds, where one before them may hold already; the second one
    that holds ends the search. -/
def exactlyOne : Bool → List Bool → Bool
  | found, [] => found
  | found, false :: rest => exactlyOne found rest
  | found, true :: rest => if found then false else exactlyOne true rest

/-- Whether a list with the given truths has as many that hold as the connective asks for. -/
def holds : Connective → List Bool → Bool
  | all, truths => truths.all id
  | any, truths => truths.any id
  | none, truths => !truths.any id
  | one, truths => exactlyOne false truths

end Connective

namespace Operand

/-- The number that an operand stands for: a field stands for its value rounded to binary64. -/
def value? {σ : Type} [FactSet σ] (facts : σ) : Operand → Option Binary64
  | field path => (FactSet.value? facts path).map Binary64.ofInt
  | literal value => some value

end Operand

namespace Comparison

/-- Whether two operands stand for numbers in the relation. -/
def holdsOf {σ : Type} [FactSet σ] (facts : σ) (relation : Comparison) (left right : Operand) : Bool :=
  match left.value? facts, right.value? facts with
  | some a, some b => relation.holds a b
  | _, _ => false

end Comparison

namespace Statement

variable {σ : Type} [FactSet σ]

mutual

/-- Whether a statement holds of the facts. -/
def holds (facts : σ) : Statement → Bool
  | atom fact => FactSet.contains facts fact
  | not inner => !holds facts inner
  | group connective items => connective.holds (truths facts items)
  | implication condition conclusion => !holds facts condition || holds facts conclusion
  | comparison relation left right => relation.holdsOf facts left right

/-- Which statements of a list hold of the facts. -/
def truths (facts : σ) : List Statement → List Bool
  | [] => []
  | item :: rest => holds facts item :: truths facts rest

end

/-- The truths of a list are those of its items. -/
@[simp] theorem truths_eq_map (facts : σ) (items : List Statement) :
    truths facts items = items.map (holds facts) := by
  induction items with
  | nil => rfl
  | cons item rest ih => rw [truths, ih, List.map_cons]

end Statement

end RollConditions
