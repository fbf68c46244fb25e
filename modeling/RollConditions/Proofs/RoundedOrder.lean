/-
  Rounding never invents an order.

  A comparison does not compare the numbers that its operands stand for, but these numbers rounded to
  binary64: facts carry whole numbers of 64 bits, and from `2 ^ 53` on not all of them are in the format.
  What is lost is little.  Rounding is MONOTONE, so two numbers may fall together but never change places;
  and it leaves alone what the format holds, every finite literal and every whole number up to `2 ^ 53`.

    1. ROUNDING.  A quotient is rounded monotonically for one divisor (`roundHalfEven_mono`).  The divisor
       changes with the size of the number, but between two sizes there is a power of two, which lies on both
       grids and which rounding therefore does not cross (`roundedUnits_mono`).
    2. PLACES.  On the line, with signs and with the ends of the range, rounding is a monotone map from exact
       places to those of the format (`roundedPlace_mono`), whatever the number is.
    3. COMPARISONS.  A monotone map either keeps the order of two places or lets them fall together
       (`relates_or_eq_of_monotone`).  All that comparisons promise follows from this.
-/
import Mathlib.Algebra.Order.Field.Basic
import Mathlib.Algebra.Order.Field.Rat
import Mathlib.Data.Int.CharZero
import Mathlib.Tactic.NormNum
import RollConditions.Proofs.NormalForm

namespace RollConditions

/-! ## Rounding keeps the order -/

/-- Of two quotients with one divisor the lesser is not rounded to more.  If they have the same whole part,
    the greater one has the greater remainder, and is rounded up where the lesser one is. -/
theorem roundHalfEven_mono {a b : Nat} (den : Nat) (h : a ≤ b) :
    roundHalfEven a den ≤ roundHalfEven b den := by
  have hdiv : a / den ≤ b / den := Nat.div_le_div_right h
  have ha : den * (a / den) + a % den = a := Nat.div_add_mod a den
  have hb : den * (b / den) + b % den = b := Nat.div_add_mod b den
  rcases Nat.lt_or_eq_of_le hdiv with hlt | heq
  · -- each is rounded to one of its own two neighbours, and these lie in order
    rcases roundHalfEven_eq_or a den with hra | hra <;>
      rcases roundHalfEven_eq_or b den with hrb | hrb <;> omega
  · unfold roundHalfEven
    dsimp only
    rw [← heq] at hb ⊢
    split
    · rename_i hup
      rw [if_pos (by omega)]
    · split <;> omega

namespace Magnitude

/-- A number is not rounded past a greater one that lies on its grid. -/
theorem roundedUnits_le_of_dvd {units bound : Nat} (hgrid : gridStep units ∣ bound)
    (h : units ≤ bound) : roundedUnits units 1 ≤ bound := by
  calc roundedUnits units 1
      = roundHalfEven units (gridStep units) * gridStep units := roundedUnits_one units
    _ ≤ roundHalfEven bound (gridStep units) * gridStep units :=
        Nat.mul_le_mul_right _ (roundHalfEven_mono _ h)
    _ = bound := roundHalfEven_mul_step (gridStep_pos units) hgrid

/-- A number is not rounded past a lesser one that lies on its grid. -/
theorem le_roundedUnits_of_dvd {units bound : Nat} (hgrid : gridStep units ∣ bound)
    (h : bound ≤ units) : bound ≤ roundedUnits units 1 := by
  calc bound
      = roundHalfEven bound (gridStep units) * gridStep units :=
        (roundHalfEven_mul_step (gridStep_pos units) hgrid).symm
    _ ≤ roundHalfEven units (gridStep units) * gridStep units :=
        Nat.mul_le_mul_right _ (roundHalfEven_mono _ h)
    _ = roundedUnits units 1 := (roundedUnits_one units).symm

/-- **Rounding is monotone.** -/
theorem roundedUnits_mono {a b : Nat} (h : a ≤ b) : roundedUnits a 1 ≤ roundedUnits b 1 := by
  rcases Nat.eq_zero_or_pos a with rfl | hapos
  · -- zero lies on every grid
    exact Nat.le_trans (roundedUnits_le_of_dvd (Nat.dvd_zero _) (Nat.le_refl 0)) (Nat.zero_le _)
  · have ha : a ≠ 0 := by omega
    have hb : b ≠ 0 := by omega
    have hlog : a.log2 ≤ b.log2 := (Nat.le_log2 hb).mpr (Nat.le_trans (Nat.log2_self_le ha) h)
    rcases Nat.lt_or_eq_of_le hlog with hlt | heq
    · -- the greatest power of two that `b` reaches lies between the two, and on the grids of both
      have hpower : 2 ^ b.log2 ≤ b := Nat.log2_self_le hb
      have habove : a ≤ 2 ^ b.log2 :=
        Nat.le_trans (Nat.le_of_lt Nat.lt_log2_self) (Nat.pow_le_pow_right (by omega) hlt)
      have hagrid : gridStep a ∣ 2 ^ b.log2 := Nat.pow_dvd_pow 2 (by omega)
      have hbgrid : gridStep b ∣ 2 ^ b.log2 := Nat.pow_dvd_pow 2 (by omega)
      exact Nat.le_trans (roundedUnits_le_of_dvd hagrid habove) (le_roundedUnits_of_dvd hbgrid hpower)
    · have hstep : gridStep a = gridStep b := by rw [gridStep, gridStep, heq]
      rw [roundedUnits_one, roundedUnits_one, hstep]
      exact Nat.mul_le_mul_right _ (roundHalfEven_mono _ h)

end Magnitude

/-! ## Places before and after rounding -/

namespace Binary64

/-- Where a number of units stands after rounding; past the end of the range it is an infinity, which
    stands at the end. -/
def roundedPlace (place : Int) : Int :=
  signed (place < 0) (min (Magnitude.roundedUnits place.natAbs 1) rangeEnd)

/-- **Rounding keeps the order of places.** -/
theorem roundedPlace_mono {x y : Int} (h : x ≤ y) : roundedPlace x ≤ roundedPlace y := by
  have hcap : ∀ {a b : Nat}, a ≤ b → min (Magnitude.roundedUnits a 1) rangeEnd
      ≤ min (Magnitude.roundedUnits b 1) rangeEnd :=
    fun hab => min_le_min_right rangeEnd (Magnitude.roundedUnits_mono hab)
  unfold roundedPlace
  rcases Int.lt_or_le x 0 with hx | hx
  · rcases Int.lt_or_le y 0 with hy | hy
    · -- below zero the order of the magnitudes is turned round
      have hunits := hcap (show y.natAbs ≤ x.natAbs by omega)
      rw [decide_eq_true hx, decide_eq_true hy]
      simp only [signed, if_true]
      omega
    · rw [decide_eq_true hx, decide_eq_false (by omega)]
      simp only [signed, if_true, Bool.false_eq_true, if_false]
      omega
  · have hunits := hcap (show x.natAbs ≤ y.natAbs by omega)
    rw [decide_eq_false (by omega), decide_eq_false (by omega)]
    simp only [signed, Bool.false_eq_true, if_false]
    omega

/-- A number with a sign and a magnitude is a number again. -/
theorem signed_natAbs (place : Int) : signed (place < 0) place.natAbs = place := by
  rcases Int.lt_or_le place 0 with h | h
  · rw [decide_eq_true h]
    simp only [signed, if_true]
    omega
  · rw [decide_eq_false (by omega)]
    simp only [signed, Bool.false_eq_true, if_false]
    omega

/-- **Rounding leaves alone what is on the grid and in the range.** -/
theorem roundedPlace_of_isMagnitude {place : Int} (h : IsMagnitude place.natAbs) :
    roundedPlace place = place := by
  obtain ⟨hgrid, hrange⟩ := h
  rw [roundedPlace, Magnitude.roundedUnits_of_dvd hgrid, Nat.min_eq_left (Nat.le_of_lt hrange),
    signed_natAbs]

/-- A whole number stands at its rounded place. -/
theorem place?_ofInt (value : Int) : (ofInt value).place? = some (roundedPlace (value * unitsPerOne)) := by
  have hunits : (value * unitsPerOne).natAbs = value.natAbs * unitsPerOne := by
    rw [Int.natAbs_mul, Int.natAbs_natCast]
  have hpositive : (0 : Int) < unitsPerOne := by exact_mod_cast unitsPerOne_pos
  have hsign : value * unitsPerOne < 0 ↔ value < 0 :=
    ⟨fun h => neg_of_mul_neg_left h (Int.le_of_lt hpositive), fun h => Int.mul_neg_of_neg_of_pos h hpositive⟩
  rw [roundedPlace, hunits, decide_eq_decide.mpr hsign, ofInt, ofRatio, Magnitude.nearest?]
  by_cases hrange : Magnitude.roundedUnits (value.natAbs * unitsPerOne) 1 < rangeEnd
  · rw [dif_pos hrange, Nat.min_eq_left (Nat.le_of_lt hrange)]
    rfl
  · rw [dif_neg hrange, Nat.min_eq_right (by omega)]
    rfl

/-- Every whole number up to `2 ^ 53` is in the format, with either sign. -/
theorem isMagnitude_of_natAbs_le {value : Int} (h : value.natAbs ≤ 2 ^ 53) :
    IsMagnitude (value * unitsPerOne).natAbs := by
  have hsmall : value.natAbs < Nat.pow 2 54 := Nat.lt_of_le_of_lt h (by decide)
  obtain ⟨m, -, hunits⟩ := ofInt_eq_finite hsmall (by decide)
  rw [Magnitude.roundedUnits_of_dvd (gridStep_dvd_mul_unitsPerOne h)] at hunits
  rw [Int.natAbs_mul, Int.natAbs_natCast, ← hunits]
  exact m.isMagnitude

/-- The exact value of a finite number. -/
def exactValue? : Binary64 → Option ℚ
  | finite negative magnitude => some ((signed negative magnitude.units : Int) / 2 ^ unitExponent)
  | _ => none

end Binary64

/-! ## Relations between exact numbers -/

namespace Comparison

/-- Whether two numbers of an ordered kind stand in the relation. -/
def relates {α : Type} [LinearOrder α] : Comparison → α → α → Bool
  | greater, a, b => decide (b < a)
  | greaterEqual, a, b => decide (b ≤ a)
  | less, a, b => decide (a < b)
  | lessEqual, a, b => decide (a ≤ b)

variable {α β : Type} [LinearOrder α] [LinearOrder β]

/-- Numbers of the format stand in the relations of their places. -/
theorem holds_eq_relates (relation : Comparison) {u v : Binary64} {x y : Int} (hu : u.place? = some x)
    (hv : v.place? = some y) : relation.holds u v = relation.relates x y := by
  cases relation <;> simp only [holds, relates, Binary64.lt, Binary64.le, Binary64.compareBy, hu, hv]

/-- A relation between numbers only depends on which of them is less. -/
theorem relates_congr (relation : Comparison) {a b : α} {c d : β} (hleft : a < b ↔ c < d)
    (hright : b < a ↔ d < c) : relation.relates a b = relation.relates c d := by
  cases relation <;> simp only [relates, ← not_lt, hleft, hright]

/-- **A monotone map keeps the order of two numbers or lets them fall together.** -/
theorem relates_or_eq_of_monotone {f : α → β} (hf : Monotone f) (a b : α) :
    (∀ relation : Comparison, relation.relates (f a) (f b) = relation.relates a b) ∨
      a ≠ b ∧ f a = f b := by
  by_cases heq : f a = f b
  · by_cases hab : a = b
    · left
      intro relation
      subst hab
      exact relates_congr relation (by simp) (by simp)
    · exact Or.inr ⟨hab, heq⟩
  · left
    intro relation
    exact relates_congr relation
      ⟨hf.reflect_lt, fun h => lt_of_le_of_ne (hf (le_of_lt h)) heq⟩
      ⟨hf.reflect_lt, fun h => lt_of_le_of_ne (hf (le_of_lt h)) (Ne.symm heq)⟩

end Comparison

/-! ## Comparisons of operands -/

namespace Operand

variable {σ : Type} [FactSet σ]

/-- The number that an operand stands for before it is rounded: the whole number that the facts give to a
    field, or a finite literal. -/
def exactValue? (facts : σ) : Operand → Option ℚ
  | field path => (FactSet.value? facts path).map (fun value : Int => (value : ℚ))
  | literal value => value.exactValue?

/-- A field with a value up to `2 ^ 53`, with either sign, or any literal. -/
def IsSmall (facts : σ) : Operand → Prop
  | field path => ∀ value, FactSet.value? facts path = some value → value.natAbs ≤ 2 ^ 53
  | literal _ => True

/-- The exact place of an operand: its exact value is that many units, and the number that is compared
    stands at the rounded place. -/
structure StandsAt (facts : σ) (operand : Operand) (place : Int) : Prop where
  /-- The exact value is the place, counted in units. -/
  exactValue?_eq : operand.exactValue? facts = some ((place : ℚ) / 2 ^ unitExponent)
  /-- The number that is compared stands at the rounded place. -/
  rounded : ∃ number, operand.value? facts = some number ∧
    number.place? = some (Binary64.roundedPlace place)
  /-- A small operand is not moved by rounding. -/
  rounded_eq_of_isSmall : operand.IsSmall facts → Binary64.roundedPlace place = place

/-- Every operand that stands for a number, and for a finite one, has an exact place. -/
theorem exists_standsAt {facts : σ} {operand : Operand} (hvalue : (operand.value? facts).isSome = true)
    (hfinite : operand.isFinite = true) : ∃ place, operand.StandsAt facts place := by
  cases operand with
  | field path =>
    obtain ⟨number, hnumber⟩ := Option.isSome_iff_exists.mp hvalue
    obtain ⟨value, hfield, hrounded⟩ := Option.map_eq_some_iff.mp hnumber
    refine ⟨value * unitsPerOne, ?_, ⟨number, hnumber, ?_⟩, ?_⟩
    · have hunits : (unitsPerOne : ℚ) = 2 ^ unitExponent := by
        unfold unitsPerOne
        rw [Nat.pow_eq, Nat.cast_pow, Nat.cast_ofNat]
      have hpositive : (2 : ℚ) ^ unitExponent ≠ 0 := pow_ne_zero _ two_ne_zero
      rw [exactValue?, hfield, Option.map_some, Int.cast_mul, Int.cast_natCast, hunits,
        mul_div_cancel_right₀ _ hpositive]
    · rw [← hrounded, Binary64.place?_ofInt]
    · intro hsmall
      exact Binary64.roundedPlace_of_isMagnitude (Binary64.isMagnitude_of_natAbs_le (hsmall value hfield))
  | literal number =>
    cases number with
    | infinite negative => exact absurd hfinite Bool.noConfusion
    | nan => exact absurd hfinite Bool.noConfusion
    | finite negative magnitude =>
      have hexact : Binary64.roundedPlace (Binary64.signed negative magnitude.units)
          = Binary64.signed negative magnitude.units := by
        apply Binary64.roundedPlace_of_isMagnitude
        rw [Binary64.natAbs_signed]
        exact magnitude.isMagnitude
      exact ⟨Binary64.signed negative magnitude.units, rfl, ⟨_, rfl, by rw [hexact]; rfl⟩, fun _ => hexact⟩

variable {facts : σ} {left right : Operand} {x y : Int}

/-- A comparison compares rounded places. -/
theorem StandsAt.holds_eq (hleft : left.StandsAt facts x) (hright : right.StandsAt facts y)
    (relation : Comparison) : (Statement.comparison relation left right).holds facts
      = relation.relates (Binary64.roundedPlace x) (Binary64.roundedPlace y) := by
  obtain ⟨u, hu, hx⟩ := hleft.rounded
  obtain ⟨v, hv, hy⟩ := hright.rounded
  rw [Statement.holds, Comparison.holdsOf, hu, hv, ← Comparison.holds_eq_relates relation hx hy]

/-- Exact values stand in the relations of their exact places. -/
theorem relates_exact (relation : Comparison) (x y : Int) :
    relation.relates ((x : ℚ) / 2 ^ unitExponent) ((y : ℚ) / 2 ^ unitExponent) = relation.relates x y := by
  have hpositive : (0 : ℚ) < 2 ^ unitExponent := pow_pos two_pos _
  apply Comparison.relates_congr
  · rw [div_lt_div_iff_of_pos_right hpositive, Int.cast_lt]
  · rw [div_lt_div_iff_of_pos_right hpositive, Int.cast_lt]

/-- The verdicts of comparisons are those on the exact values, unless two different ones fall together and
    compare as one. -/
theorem StandsAt.verdicts (hleft : left.StandsAt facts x) (hright : right.StandsAt facts y) {a b : ℚ}
    (ha : left.exactValue? facts = some a) (hb : right.exactValue? facts = some b) :
    (∀ relation : Comparison,
        (Statement.comparison relation left right).holds facts = relation.relates a b) ∨
      a ≠ b ∧ ∀ relation : Comparison,
        (Statement.comparison relation left right).holds facts = relation.relates a a := by
  obtain rfl : (x : ℚ) / 2 ^ unitExponent = a := Option.some.inj (hleft.exactValue?_eq.symm.trans ha)
  obtain rfl : (y : ℚ) / 2 ^ unitExponent = b := Option.some.inj (hright.exactValue?_eq.symm.trans hb)
  have hmono : Monotone Binary64.roundedPlace := fun _ _ h => Binary64.roundedPlace_mono h
  rcases Comparison.relates_or_eq_of_monotone hmono x y with hsame | ⟨hne, heq⟩
  · left
    intro relation
    rw [hleft.holds_eq hright, hsame, relates_exact]
  · right
    refine ⟨?_, ?_⟩
    · rw [Ne, div_left_inj' (pow_ne_zero _ two_ne_zero), Int.cast_inj]
      exact hne
    · intro relation
      rw [hleft.holds_eq hright, heq]
      exact Comparison.relates_congr relation (by simp) (by simp)

end Operand

namespace Comparison

/-- Verdicts on four relations that are those on two numbers, or else those on one number and itself, never
    put the numbers in the wrong order. -/
theorem order_of_verdicts {verdict : Comparison → Bool} {a b : ℚ}
    (h : (∀ relation : Comparison, verdict relation = relation.relates a b) ∨
      a ≠ b ∧ ∀ relation : Comparison, verdict relation = relation.relates a a) :
    (verdict .greater = true → b < a) ∧ (verdict .less = true → a < b) ∧
      (b ≤ a → verdict .greaterEqual = true) ∧ (a ≤ b → verdict .lessEqual = true) := by
  rcases h with h | ⟨-, h⟩ <;> simp [h, relates]

end Comparison

/-- **Rounding never invents an order.**

    Let both operands of a comparison stand for numbers, the literals among them for finite ones, and let
    `a` and `b` be these numbers before rounding.  A strict relation that holds is one between `a` and
    `b`, and a relation between them that is not strict holds.  If the values of the fields are at most
    `2 ^ 53` in size, all four relations are those of `a` and `b`.  In any case this is so, or else `a` and
    `b` are two different numbers that compare as one. -/
theorem rounding_invents_no_order {σ : Type} [FactSet σ] (facts : σ) {left right : Operand}
    (hleft : (left.value? facts).isSome = true) (hright : (right.value? facts).isSome = true)
    (hleftFinite : left.isFinite = true) (hrightFinite : right.isFinite = true) :
    ∃ a b : ℚ, left.exactValue? facts = some a ∧ right.exactValue? facts = some b ∧
      ((Statement.comparison .greater left right).holds facts = true → b < a) ∧
      ((Statement.comparison .less left right).holds facts = true → a < b) ∧
      (b ≤ a → (Statement.comparison .greaterEqual left right).holds facts = true) ∧
      (a ≤ b → (Statement.comparison .lessEqual left right).holds facts = true) ∧
      (left.IsSmall facts → right.IsSmall facts → ∀ relation : Comparison,
        (Statement.comparison relation left right).holds facts = relation.relates a b) ∧
      ((∀ relation : Comparison,
          (Statement.comparison relation left right).holds facts = relation.relates a b) ∨
        a ≠ b ∧ ∀ relation : Comparison,
          (Statement.comparison relation left right).holds facts = relation.relates a a) := by
  obtain ⟨x, hx⟩ := Operand.exists_standsAt hleft hleftFinite
  obtain ⟨y, hy⟩ := Operand.exists_standsAt hright hrightFinite
  have hcases := hx.verdicts hy hx.exactValue?_eq hy.exactValue?_eq
  obtain ⟨hgreater, hless, hgreaterEqual, hlessEqual⟩ := Comparison.order_of_verdicts hcases
  refine ⟨_, _, hx.exactValue?_eq, hy.exactValue?_eq, hgreater, hless, hgreaterEqual, hlessEqual, ?_, hcases⟩
  intro hleftSmall hrightSmall relation
  rw [hx.holds_eq hy, hx.rounded_eq_of_isSmall hleftSmall, hy.rounded_eq_of_isSmall hrightSmall,
    Operand.relates_exact]

/-- Two neighbouring values, the lesser of which is `2 ^ 53`. -/
def neighbouringLevels : List String := ["self:level:9007199254740993", "target:level:9007199254740992"]

/-- The greater of the two levels is not below the other one, though it is rounded. -/
theorem greater_level_is_not_below :
    ((Operand.field "self:level").value? neighbouringLevels).isSome = true ∧
    ((Operand.field "target:level").value? neighbouringLevels).isSome = true ∧
    (Operand.field "self:level").isFinite = true ∧ (Operand.field "target:level").isFinite = true ∧
    (Statement.comparison .less (.field "self:level") (.field "target:level")).holds neighbouringLevels
      = false ∧
    (Statement.comparison .greaterEqual (.field "self:level") (.field "target:level")).holds
      neighbouringLevels = true := by
  have hself : (Operand.field "self:level").exactValue? neighbouringLevels = some 9007199254740993 := by
    have hvalue : FactSet.value? neighbouringLevels "self:level" = some 9007199254740993 := by decide
    rw [Operand.exactValue?, hvalue, Option.map_some, Int.cast_ofNat]
  have htarget : (Operand.field "target:level").exactValue? neighbouringLevels = some 9007199254740992 := by
    have hvalue : FactSet.value? neighbouringLevels "target:level" = some 9007199254740992 := by decide
    rw [Operand.exactValue?, hvalue, Option.map_some, Int.cast_ofNat]
  have hleft : ((Operand.field "self:level").value? neighbouringLevels).isSome = true := by decide
  have hright : ((Operand.field "target:level").value? neighbouringLevels).isSome = true := by decide
  obtain ⟨a, b, ha, hb, -, hless, hgreaterEqual, -⟩ :=
    rounding_invents_no_order neighbouringLevels hleft hright rfl rfl
  obtain rfl : 9007199254740993 = a := Option.some.inj (hself.symm.trans ha)
  obtain rfl : 9007199254740992 = b := Option.some.inj (htarget.symm.trans hb)
  refine ⟨hleft, hright, rfl, rfl, ?_, hgreaterEqual (by norm_num)⟩
  rw [Bool.eq_false_iff]
  intro h
  exact absurd (hless h) (by norm_num)

/-- Two neighbours that are rounded to one number: neither is above the other. -/
example : (Statement.comparison .greater (.field "a") (.field "b")).holds
    ["a:9007199254740993", "b:9007199254740992"] = false := by decide +kernel

end RollConditions
