/-
  The comparisons of operands come from one order.

  An operand that stands for a number has a PLACE on the line, and a comparison compares places
  (`holds_comparison`).  All that an order promises follows from this, but only where there is a place,
  and an operand can lack one in two ways.  The not-a-number stands nowhere, though it is a number to a
  comparison; but no raw value is read as it (`isReadable_iff`), so a readable operand that stands for a
  number has a place (`exists_place`).  And a field may have no value; then every relation fails on it, so
  that the negation of a relation is no longer the opposite relation.

  Whether one statement may be written for another is asked of every statement that it can stand in.  A
  `Surrounding` is a statement with a gap, and since the truth of a statement comes from that of its parts,
  what fills the gap counts by its truth alone (`interchangeable_iff`).
-/
import RollConditions.Proofs.FieldValue
import RollConditions.Proofs.RoundedOrder

namespace RollConditions

/-! ## The place of an operand -/

namespace Operand

/-- Some raw value is read as the operand. -/
def IsReadable (operand : Operand) : Prop := ∃ place raw, readAt place raw = .ok operand

/-- Readers make fields and finite literals, and every one of them. -/
theorem isReadable_iff {operand : Operand} : operand.IsReadable ↔ operand.isFinite = true := by
  constructor
  · rintro ⟨place, raw, hread⟩
    exact Statement.isFinite_of_rawOperand (Statement.readAt_operand_eq_ok_iff.mp hread)
  · intro hfinite
    cases operand with
    | field path => exact ⟨"", .text path, rfl⟩
    | literal value =>
      cases value with
      | finite negative magnitude => exact ⟨"", .number (.float negative magnitude), rfl⟩
      | infinite negative => exact absurd hfinite Bool.noConfusion
      | nan => exact absurd hfinite Bool.noConfusion

variable {σ : Type} [FactSet σ]

/-- The operand stands for a number. -/
def Resolves (facts : σ) (operand : Operand) : Prop := (operand.value? facts).isSome = true

/-- Where the number that an operand stands for stands on the line. -/
def place? (facts : σ) (operand : Operand) : Option Int := (operand.value? facts).bind Binary64.place?

variable {facts : σ} {left right : Operand}

/-- A readable operand that stands for a number has a place. -/
theorem exists_place {operand : Operand} (hread : operand.IsReadable) (hresolves : operand.Resolves facts) :
    ∃ x, operand.place? facts = some x := by
  obtain ⟨place, hstands⟩ := exists_standsAt hresolves (isReadable_iff.mp hread)
  obtain ⟨number, hnumber, hrounded⟩ := hstands.rounded
  refine ⟨Binary64.roundedPlace place, ?_⟩
  rw [place?, hnumber]
  exact hrounded

/-- **A comparison compares places.** -/
theorem holds_comparison {x y : Int} (hleft : left.place? facts = some x)
    (hright : right.place? facts = some y) (relation : Comparison) :
    (Statement.comparison relation left right).holds facts = relation.relates x y := by
  obtain ⟨u, hu, hx⟩ := Option.bind_eq_some_iff.mp hleft
  obtain ⟨v, hv, hy⟩ := Option.bind_eq_some_iff.mp hright
  rw [Statement.holds, Comparison.holdsOf, hu, hv]
  exact Comparison.holds_eq_relates relation hx hy

/-- Every relation fails on an operand that stands for no number. -/
theorem holds_comparison_of_not_resolves (h : ¬ left.Resolves facts ∨ ¬ right.Resolves facts)
    (relation : Comparison) : (Statement.comparison relation left right).holds facts = false := by
  rw [Statement.holds]
  apply Comparison.holdsOf_eq_false
  simpa only [Resolves, Bool.not_eq_true, Option.isSome_eq_false_iff, Option.isNone_iff_eq_none] using h

/-- A relation and the one the other way round are the same with the operands exchanged. -/
theorem holds_greaterEqual (left right : Operand) :
    (Statement.comparison .greaterEqual left right).holds facts
      = (Statement.comparison .lessEqual right left).holds facts := by
  rw [Statement.holds, Statement.holds, Comparison.holdsOf, Comparison.holdsOf]
  cases left.value? facts <;> cases right.value? facts <;> rfl

theorem holds_less (left right : Operand) :
    (Statement.comparison .less left right).holds facts
      = (Statement.comparison .greater right left).holds facts := by
  rw [Statement.holds, Statement.holds, Comparison.holdsOf, Comparison.holdsOf]
  cases left.value? facts <;> cases right.value? facts <;> rfl

end Operand

/-! ## One statement for another -/

/-- A statement with a gap in it. -/
inductive Surrounding where
  /-- Nothing but the gap. -/
  | gap
  | inNot (inner : Surrounding)
  /-- A gap in one of the items, between those before and those after it. -/
  | inGroup (connective : Connective) (before : List Statement) (inner : Surrounding)
    (after : List Statement)
  | inCondition (inner : Surrounding) (conclusion : Statement)
  | inConclusion (condition : Statement) (inner : Surrounding)

namespace Surrounding

/-- The statement with the gap filled. -/
def fill : Surrounding → Statement → Statement
  | gap, statement => statement
  | inNot inner, statement => .not (inner.fill statement)
  | inGroup connective before inner after, statement =>
    .group connective (before ++ inner.fill statement :: after)
  | inCondition inner conclusion, statement => .implication (inner.fill statement) conclusion
  | inConclusion condition inner, statement => .implication condition (inner.fill statement)

/-- What fills the gap counts by its truth alone. -/
theorem holds_fill_congr {σ : Type} [FactSet σ] {facts : σ} {statement other : Statement}
    (h : statement.holds facts = other.holds facts) (around : Surrounding) :
    (around.fill statement).holds facts = (around.fill other).holds facts := by
  induction around with
  | gap => exact h
  | inNot inner ih => rw [fill, fill, Statement.holds, Statement.holds, ih]
  | inGroup connective before inner after ih =>
    rw [fill, fill, Statement.holds, Statement.holds, Statement.truths_eq_map, Statement.truths_eq_map,
      List.map_append, List.map_append, List.map_cons, List.map_cons, ih]
  | inCondition inner conclusion ih => rw [fill, fill, Statement.holds, Statement.holds, ih]
  | inConclusion condition inner ih => rw [fill, fill, Statement.holds, Statement.holds, ih]

end Surrounding

section order

variable {σ : Type} [FactSet σ]

/-- Whatever statement one of the two stands in, the other may stand there instead. -/
def Interchangeable (facts : σ) (statement other : Statement) : Prop :=
  ∀ around : Surrounding, (around.fill statement).holds facts = (around.fill other).holds facts

theorem interchangeable_iff {facts : σ} {statement other : Statement} :
    Interchangeable facts statement other ↔ statement.holds facts = other.holds facts :=
  ⟨fun h => h .gap, fun h => Surrounding.holds_fill_congr h⟩

/-! ## The order -/

/-- On the operands of a kind the four relations are those of one order, in which each two operands can be
    compared. -/
structure IsOneOrder (facts : σ) (kind : Operand → Prop) : Prop where
  refl : ∀ x, kind x → (Statement.comparison .lessEqual x x).holds facts = true
  trans : ∀ x y z, kind x → kind y → kind z →
    (Statement.comparison .lessEqual x y).holds facts = true →
    (Statement.comparison .lessEqual y z).holds facts = true →
    (Statement.comparison .lessEqual x z).holds facts = true
  total : ∀ x y, kind x → kind y →
    (Statement.comparison .lessEqual x y).holds facts = true ∨
      (Statement.comparison .lessEqual y x).holds facts = true
  /-- `gt` is the negation of `lte`. -/
  greater_eq : ∀ x y, kind x → kind y →
    (Statement.comparison .greater x y).holds facts
      = !(Statement.comparison .lessEqual x y).holds facts
  /-- `gte` is `lte` the other way round. -/
  greaterEqual_eq : ∀ x y, kind x → kind y →
    (Statement.comparison .greaterEqual x y).holds facts
      = (Statement.comparison .lessEqual y x).holds facts
  /-- `lt` is `gt` the other way round. -/
  less_eq : ∀ x y, kind x → kind y →
    (Statement.comparison .less x y).holds facts = (Statement.comparison .greater y x).holds facts

variable {facts : σ}

/-- **Operands with places are in one order**, that of their places. -/
theorem isOneOrder_of_places {kind : Operand → Prop}
    (h : ∀ operand, kind operand → ∃ x, operand.place? facts = some x) : IsOneOrder facts kind where
  refl operand hoperand := by
    obtain ⟨x, hx⟩ := h operand hoperand
    rw [Operand.holds_comparison hx hx]
    exact decide_eq_true (Int.le_refl x)
  trans first second third hfirst hsecond hthird := by
    obtain ⟨x, hx⟩ := h first hfirst
    obtain ⟨y, hy⟩ := h second hsecond
    obtain ⟨z, hz⟩ := h third hthird
    rw [Operand.holds_comparison hx hy, Operand.holds_comparison hy hz, Operand.holds_comparison hx hz]
    intro hxy hyz
    exact decide_eq_true (Int.le_trans (of_decide_eq_true hxy) (of_decide_eq_true hyz))
  total left right hleft hright := by
    obtain ⟨x, hx⟩ := h left hleft
    obtain ⟨y, hy⟩ := h right hright
    rw [Operand.holds_comparison hx hy, Operand.holds_comparison hy hx]
    exact (Int.le_total x y).imp decide_eq_true decide_eq_true
  greater_eq left right hleft hright := by
    obtain ⟨x, hx⟩ := h left hleft
    obtain ⟨y, hy⟩ := h right hright
    rw [Operand.holds_comparison hx hy, Operand.holds_comparison hx hy, Comparison.relates,
      Comparison.relates, ← decide_not, decide_eq_decide, Int.not_le]
  greaterEqual_eq left right _ _ := Operand.holds_greaterEqual left right
  less_eq left right _ _ := Operand.holds_less left right

/-- The negation of `gt` says the same as `lte` where both operands stand for numbers, and nowhere else. -/
theorem holds_not_greater_eq_iff {left right : Operand} (hleft : left.IsReadable)
    (hright : right.IsReadable) :
    (Statement.not (.comparison .greater left right)).holds facts
        = (Statement.comparison .lessEqual left right).holds facts ↔
      left.Resolves facts ∧ right.Resolves facts := by
  rw [Statement.holds]
  constructor
  · intro heq
    by_contra hnot
    -- both relations fail on an operand without a number, but one of them is negated
    have hfails := Operand.holds_comparison_of_not_resolves (not_and_or.mp hnot)
    rw [hfails, hfails] at heq
    exact absurd heq (by decide)
  · rintro ⟨hleftResolves, hrightResolves⟩
    obtain ⟨x, hx⟩ := Operand.exists_place hleft hleftResolves
    obtain ⟨y, hy⟩ := Operand.exists_place hright hrightResolves
    have horder : IsOneOrder facts (fun operand => ∃ x, operand.place? facts = some x) :=
      isOneOrder_of_places (fun _ h => h)
    rw [horder.greater_eq left right ⟨x, hx⟩ ⟨y, hy⟩, Bool.not_not]

end order

/-- **The comparisons of operands come from one order.**

    The operands that can be read are the fields and the finite literals.  On those of them that stand for
    numbers, whatever the facts, `lte` is reflexive, transitive and total, `gt` is its negation, and `gte`
    and `lt` are `lte` and `gt` the other way round.  An operand that stands for no number is in no
    relation to any operand, not even to itself.  So the negation of `gt` may be written for `lte`, in
    whatever statement, if both operands stand for numbers, and only then. -/
theorem comparisons_come_from_one_order {σ : Type} [FactSet σ] (facts : σ) :
    (∀ operand : Operand, operand.IsReadable ↔ operand.isFinite = true) ∧
    IsOneOrder facts (fun operand => operand.IsReadable ∧ operand.Resolves facts) ∧
    (∀ x : Operand, ¬ x.Resolves facts → ∀ (relation : Comparison) (y : Operand),
      (Statement.comparison relation x y).holds facts = false ∧
      (Statement.comparison relation y x).holds facts = false) ∧
    (∀ x y : Operand, x.IsReadable → y.IsReadable →
      (Interchangeable facts (.not (.comparison .greater x y)) (.comparison .lessEqual x y) ↔
        x.Resolves facts ∧ y.Resolves facts)) := by
  refine ⟨fun _ => Operand.isReadable_iff, ?_, ?_, ?_⟩
  · exact isOneOrder_of_places (fun _ h => Operand.exists_place h.1 h.2)
  · intro x hx relation y
    exact ⟨Operand.holds_comparison_of_not_resolves (Or.inl hx) relation,
      Operand.holds_comparison_of_not_resolves (Or.inr hx) relation⟩
  · intro x y hx hy
    rw [interchangeable_iff, holds_not_greater_eq_iff hx hy]

/-- Of a level that the facts give and one that they do not, the second one is not above the first, and not
    below or equal either.  Once the facts give both, the one may be written for the other. -/
theorem negated_greater_is_not_lessEqual_without_value :
    (Operand.field "target:level").IsReadable ∧ (Operand.field "self:level").IsReadable ∧
    ¬ (Operand.field "target:level").Resolves ["self:level:5"] ∧
    ¬ Interchangeable ["self:level:5"]
      (.not (.comparison .greater (.field "target:level") (.field "self:level")))
      (.comparison .lessEqual (.field "target:level") (.field "self:level")) ∧
    FactSet.value? ["self:level:5", "target:level:3"] "target:level" = some 3 ∧
    Interchangeable ["self:level:5", "target:level:3"]
      (.not (.comparison .greater (.field "target:level") (.field "self:level")))
      (.comparison .lessEqual (.field "target:level") (.field "self:level")) := by
  have htarget : (Operand.field "target:level").IsReadable := Operand.isReadable_iff.mpr rfl
  have hself : (Operand.field "self:level").IsReadable := Operand.isReadable_iff.mpr rfl
  have hnone : ¬ (Operand.field "target:level").Resolves ["self:level:5"] := by
    unfold Operand.Resolves
    decide
  have hboth : (Operand.field "target:level").Resolves ["self:level:5", "target:level:3"] ∧
      (Operand.field "self:level").Resolves ["self:level:5", "target:level:3"] := by
    unfold Operand.Resolves
    decide
  refine ⟨htarget, hself, hnone, ?_, by decide, ?_⟩
  · rw [(comparisons_come_from_one_order ["self:level:5"]).2.2.2 _ _ htarget hself]
    exact fun h => hnone h.1
  · rw [(comparisons_come_from_one_order ["self:level:5", "target:level:3"]).2.2.2 _ _ htarget hself]
    exact hboth

/-- The not-a-number would break the order, even its reflexivity. -/
example : (Statement.comparison .lessEqual (.literal .nan) (.literal .nan)).holds ([] : List String)
    = false := by decide

end RollConditions
