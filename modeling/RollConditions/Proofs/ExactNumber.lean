/-
  Numbers that are written and read back.

  A literal has two written forms: a whole number, if it is one below `2 ^ 63`, and a binary64 number
  otherwise.  Reading the second form changes nothing.  Reading the first one rounds a whole number to
  binary64, and here the rounding is exact, because the number came from the format: a number of units
  that lies on its own grid is rounded to itself (`nearest?_units`).  All that is lost is the sign of a
  zero, since there is one whole number zero only; `plainZero` says so (`readAt_literalToRaw`).
-/
import RollConditions.Statement.Raw
import RollConditions.Statement.Reader
import RollConditions.Statement.Truth

namespace RollConditions

/-! ## Rounding what the format holds -/

/-- A quotient without a remainder is not rounded. -/
theorem roundHalfEven_mul {den : Nat} (count : Nat) (h : 0 < den) :
    roundHalfEven (den * count) den = count := by
  unfold roundHalfEven
  rw [Nat.mul_mod_right, Nat.mul_div_cancel_left count h]
  dsimp only
  rw [if_neg (by omega)]

/-- A whole number of steps is rounded to itself. -/
theorem roundHalfEven_mul_step {units step : Nat} (hstep : 0 < step) (h : step ∣ units) :
    roundHalfEven units step * step = units := by
  obtain ⟨count, rfl⟩ := h
  rw [roundHalfEven_mul count hstep, Nat.mul_comm]

/-- A step is above zero. -/
theorem gridStep_pos (units : Nat) : 0 < gridStep units := pow_two_pos _

namespace Magnitude

/-- A whole number of units is rounded to a multiple of its own step. -/
theorem roundedUnits_one (units : Nat) :
    roundedUnits units 1 = roundHalfEven units (gridStep units) * gridStep units := by
  unfold roundedUnits
  dsimp only
  rw [Nat.div_one, Nat.one_mul]

/-- A number of units on its own grid is rounded to itself. -/
theorem roundedUnits_of_dvd {units : Nat} (h : gridStep units ∣ units) : roundedUnits units 1 = units := by
  rw [roundedUnits_one, roundHalfEven_mul_step (gridStep_pos units) h]

/-- **Rounding is exact on the format.** -/
theorem nearest?_units (m : Magnitude) : nearest? m.units 1 = some m := by
  obtain ⟨units, hgrid, hrange⟩ := m
  have hrounded : roundedUnits units 1 = units := roundedUnits_of_dvd hgrid
  unfold nearest?
  rw [dif_pos (by rw [hrounded]; exact hrange)]
  simp only [hrounded]

end Magnitude

namespace Binary64

/-- A count keeps its size whatever its sign. -/
theorem natAbs_signed (negative : Bool) (units : Nat) : (signed negative units).natAbs = units := by
  cases negative <;> simp [signed]

/-- A signed count is below zero if it has the sign and is not zero. -/
theorem signed_lt_zero_iff {negative : Bool} {units : Nat} :
    signed negative units < 0 ↔ negative = true ∧ units ≠ 0 := by
  cases negative with
  | true =>
    show -(units : Int) < 0 ↔ _
    constructor
    · intro h
      exact ⟨rfl, by omega⟩
    · rintro ⟨_, h⟩
      omega
  | false =>
    show (units : Int) < 0 ↔ _
    constructor
    · intro h
      omega
    · rintro ⟨h, _⟩
      cases h

/-- The whole number that a finite number stands for is rounded to that number again, but a zero loses
    its sign. -/
theorem ofInt_of_whole? {negative : Bool} {m : Magnitude} {whole : Int}
    (h : (finite negative m).whole? = some whole) :
    ofInt whole = finite (negative && m.units != 0) m := by
  simp only [whole?, Option.ite_none_right_eq_some, Option.some.injEq] at h
  obtain ⟨hunits, rfl⟩ := h
  have hback : m.units / unitsPerOne * unitsPerOne = m.units :=
    Nat.div_mul_cancel (Nat.dvd_of_mod_eq_zero hunits)
  have hzero : m.units / unitsPerOne ≠ 0 ↔ m.units ≠ 0 := by
    constructor
    · intro hquot hnone
      rw [hnone, Nat.zero_div] at hquot
      exact hquot rfl
    · intro hunits hquot
      rw [hquot, Nat.zero_mul] at hback
      exact hunits hback.symm
  have hsign : decide (signed negative (m.units / unitsPerOne) < 0) = (negative && m.units != 0) := by
    rw [Bool.eq_iff_iff, decide_eq_true_iff, signed_lt_zero_iff, hzero, Bool.and_eq_true, bne_iff_ne]
  rw [ofInt, ofRatio, natAbs_signed, hback, Magnitude.nearest?_units, Option.elim_some, hsign]

/-- The number without the sign of a zero. -/
def plainZero : Binary64 → Binary64
  | .finite negative magnitude => .finite (negative && magnitude.units != 0) magnitude
  | other => other

/-- A zero of either sign stands for the whole number zero. -/
theorem whole?_of_units_eq_zero {negative : Bool} {m : Magnitude} (h : m.units = 0) :
    (finite negative m).whole? = some 0 := by
  rw [whole?, h, Nat.zero_mod, if_pos rfl, Nat.zero_div]
  cases negative <;> rfl

/-- A number that is not zero keeps its sign. -/
theorem plainZero_of_units_ne_zero {negative : Bool} {m : Magnitude} (h : m.units ≠ 0) :
    (finite negative m).plainZero = finite negative m := by
  rw [plainZero, bne_iff_ne.mpr h, Bool.and_true]

/-- Numbers are equal if they stand at the same place. -/
theorem eq_iff {a b : Binary64} : a.eq b = true ↔ ∃ x, a.place? = some x ∧ b.place? = some x := by
  unfold eq compareBy
  generalize a.place? = x
  generalize b.place? = y
  cases x with
  | none => exact ⟨fun h => Bool.noConfusion h, fun ⟨_, h, _⟩ => nomatch h⟩
  | some x =>
    cases y with
    | none => exact ⟨fun h => Bool.noConfusion h, fun ⟨_, _, h⟩ => nomatch h⟩
    | some y =>
      show (x == y) = true ↔ _
      rw [beq_iff_eq]
      exact ⟨fun h => ⟨x, rfl, by rw [h]⟩, fun ⟨_, hx, hy⟩ => by
        rw [Option.some.inj hx, Option.some.inj hy]⟩

/-- The sign of a zero does not move a number. -/
theorem place?_plainZero (value : Binary64) : value.plainZero.place? = value.place? := by
  cases value with
  | finite negative m =>
    show some (signed (negative && m.units != 0) m.units) = some (signed negative m.units)
    generalize m.units = units
    cases negative with
    | false => rfl
    | true =>
      rw [Bool.true_and]
      cases units with
      | zero => rfl
      | succ n => rfl
  | infinite negative => rfl
  | nan => rfl

end Binary64

/-! ## The raw form of a literal -/

namespace Operand

/-- **A finite literal is read back.**  Only the sign of a zero is lost. -/
theorem readAt_literalToRaw (place : String) {value : Binary64} (h : value.isFinite = true) :
    readAt place (literalToRaw value) = .ok (.literal value.plainZero) := by
  cases value with
  | infinite negative => exact absurd h Bool.noConfusion
  | nan => exact absurd h Bool.noConfusion
  | finite negative m =>
    -- the second written form keeps the number as it is, and is not used for a zero
    have hfloat : ((Binary64.finite negative m).whole? ≠ some 0) →
        readAt place (Json.ofBinary64 (.finite negative m))
          = .ok (.literal (Binary64.finite negative m).plainZero) := by
      intro hzero
      rw [Binary64.plainZero_of_units_ne_zero (fun h => hzero (Binary64.whole?_of_units_eq_zero h))]
      rfl
    cases hwhole : (Binary64.finite negative m).whole? with
    | none =>
      rw [literalToRaw, hwhole]
      exact hfloat (by simp [hwhole])
    | some whole =>
      rw [literalToRaw, hwhole]
      show readAt place (if whole.natAbs < 0x8000000000000000 then Json.ofInt whole else _) = _
      by_cases hsmall : whole.natAbs < 0x8000000000000000
      · have hrange : Json.IsWholeRange whole := by
          unfold Json.IsWholeRange
          omega
        rw [if_pos hsmall, Json.ofInt, dif_pos hrange, readAt, Json.Number.toBinary64,
          Binary64.ofInt_of_whole? hwhole, Binary64.plainZero]
      · rw [if_neg hsmall]
        refine hfloat ?_
        rw [hwhole]
        intro heq
        obtain rfl : whole = 0 := Option.some.inj heq
        exact hsmall (by decide)

/-- What is not finite has no raw form. -/
theorem literalToRaw_of_not_finite {value : Binary64} (h : value.isFinite = false) :
    literalToRaw value = .null := by
  cases value with
  | finite negative m => exact absurd h Bool.noConfusion
  | infinite negative => rfl
  | nan => rfl

end Operand

end RollConditions
