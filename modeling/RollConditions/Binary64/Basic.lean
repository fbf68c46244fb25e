/-
  Binary64 numbers, kept exactly.

  Every finite number of the binary64 format is a whole number of UNITS, a unit being `2 ^ -1074`,
  the least number of the format above zero.  So a magnitude is a natural number with a proof that it
  has at most 53 significant bits and lies below the end of the range, and nothing in this library
  rests on machine arithmetic: rounding, order and the text of a number are all worked out on natural
  numbers.

    * `roundHalfEven num den`     the whole number nearest to a quotient, a half to the even one;
    * `Magnitude.nearest? n d`    the magnitude nearest to `n / d` units, none past the end of the range;
    * `Binary64`                  sign and magnitude, the two infinities, and the not-a-number;
    * `Binary64.place?`           where a number stands on the line, from which all comparisons come.
-/

namespace RollConditions

/-! ## Rounding a quotient -/

/-- The whole number nearest to `num / den`; a half goes to the even neighbour. -/
def roundHalfEven (num den : Nat) : Nat :=
  let down := num / den
  let twice := 2 * (num % den)
  if den < twice ∨ (twice = den ∧ down % 2 = 1) then down + 1 else down

/-- Rounding moves a quotient to one of its two neighbours. -/
theorem roundHalfEven_eq_or (num den : Nat) :
    roundHalfEven num den = num / den ∨ roundHalfEven num den = num / den + 1 := by
  unfold roundHalfEven
  dsimp only
  split
  · exact Or.inr rfl
  · exact Or.inl rfl

/-! ## Magnitudes -/

/-- A unit is two to the minus this. -/
def unitExponent : Nat := 1074

/-- The number of units in one. -/
def unitsPerOne : Nat := Nat.pow 2 unitExponent

/-- The first power of two that is too large for the format, in units: `2 ^ 1024` in value. -/
def rangeEnd : Nat := Nat.pow 2 (unitExponent + 1024)

/-- A power of two is above zero. -/
theorem pow_two_pos (exponent : Nat) : 0 < Nat.pow 2 exponent := Nat.two_pow_pos exponent

theorem unitsPerOne_pos : 0 < unitsPerOne := by
  unfold unitsPerOne
  exact pow_two_pos _

theorem rangeEnd_pos : 0 < rangeEnd := by
  unfold rangeEnd
  exact pow_two_pos _

/-- The distance between neighbouring magnitudes at `units`: below 53 bits every whole number of units
    is in the format, above it the last bits are zero. -/
def gridStep (units : Nat) : Nat := Nat.pow 2 (units.log2 - 52)

/-- A number of units that the format holds. -/
def IsMagnitude (units : Nat) : Prop := gridStep units ∣ units ∧ units < rangeEnd

instance (units : Nat) : Decidable (IsMagnitude units) :=
  inferInstanceAs (Decidable (_ ∧ _))

/-- A finite number of the format without its sign. -/
structure Magnitude where
  /-- The value in units of `2 ^ -1074`. -/
  units : Nat
  /-- The value is one of the format's. -/
  isMagnitude : IsMagnitude units
deriving DecidableEq

/-- A count of steps up to `2 ^ 53`, times its step, keeps to the grid of where it lands. -/
theorem gridStep_dvd_mul_pow {count : Nat} (j : Nat) (h : count ≤ Nat.pow 2 53) :
    gridStep (count * Nat.pow 2 j) ∣ count * Nat.pow 2 j := by
  rw [Nat.pow_eq] at h ⊢
  rcases Nat.eq_or_lt_of_le h with h | h
  · -- the count carried into a new bit, and the number is itself a power of two
    subst h
    rw [← Nat.pow_add, gridStep, Nat.log2_two_pow]
    exact Nat.pow_dvd_pow 2 (by omega)
  · rcases Nat.eq_zero_or_pos count with h0 | h0
    · simp [h0]
    · have hpos : count * 2 ^ j ≠ 0 :=
        Nat.ne_of_gt (Nat.mul_pos h0 (Nat.two_pow_pos j))
      have hlt : count * 2 ^ j < 2 ^ (53 + j) := by
        rw [Nat.pow_add]
        exact Nat.mul_lt_mul_of_pos_right h (Nat.two_pow_pos j)
      have hlog : (count * 2 ^ j).log2 < 53 + j := (Nat.log2_lt hpos).mpr hlt
      exact Nat.dvd_trans (Nat.pow_dvd_pow 2 (by omega)) (Nat.dvd_mul_left (2 ^ j) count)

/-- A number divided by its own grid step leaves fewer than `2 ^ 53` steps. -/
theorem div_gridStep_lt (units : Nat) : units / gridStep units < Nat.pow 2 53 := by
  rw [gridStep, Nat.pow_eq, Nat.pow_eq, Nat.div_lt_iff_lt_mul (Nat.two_pow_pos _), ← Nat.pow_add]
  exact Nat.lt_of_lt_of_le Nat.lt_log2_self (Nat.pow_le_pow_right (by omega) (by omega))

namespace Magnitude

/-- No units at all. -/
def zero : Magnitude := ⟨0, by simp, rangeEnd_pos⟩

instance : Inhabited Magnitude := ⟨zero⟩

/-- The quotient `num / den` rounded to a multiple of the grid step at its place. -/
def roundedUnits (num den : Nat) : Nat :=
  let step := gridStep (num / den)
  roundHalfEven num (den * step) * step

/-- Rounding lands on the grid, also where it carries into a new bit. -/
theorem gridStep_dvd_roundedUnits (num den : Nat) :
    gridStep (roundedUnits num den) ∣ roundedUnits num den := by
  refine gridStep_dvd_mul_pow _ ?_
  have hdiv : num / (den * gridStep (num / den)) < Nat.pow 2 53 := by
    rw [← Nat.div_div_eq_div_mul]
    exact div_gridStep_lt (num / den)
  rcases roundHalfEven_eq_or num (den * gridStep (num / den)) with h | h <;> omega

/-- The magnitude nearest to `num / den` units, a half to the even neighbour; none at or past the end
    of the range. -/
def nearest? (num den : Nat) : Option Magnitude :=
  if h : roundedUnits num den < rangeEnd then
    some ⟨roundedUnits num den, gridStep_dvd_roundedUnits num den, h⟩
  else none

/-- The product of two magnitudes, rounded; none past the end of the range. -/
def mul? (a b : Magnitude) : Option Magnitude := nearest? (a.units * b.units) unitsPerOne

/-- The quotient of two magnitudes, rounded; none past the end of the range. -/
def div? (a b : Magnitude) : Option Magnitude := nearest? (a.units * unitsPerOne) b.units

end Magnitude

/-! ## The numbers of the format -/

/-- A number of the binary64 format; zero has both signs. -/
inductive Binary64 where
  /-- A signed magnitude. -/
  | finite (negative : Bool) (magnitude : Magnitude)
  /-- Past either end of the range. -/
  | infinite (negative : Bool)
  /-- No number. -/
  | nan
deriving DecidableEq, Inhabited

namespace Binary64

/-- The nearest number to the signed quotient `num / den`. -/
def ofRatio (negative : Bool) (num den : Nat) : Binary64 :=
  (Magnitude.nearest? (num * unitsPerOne) den).elim (.infinite negative) (.finite negative)

/-- The nearest number to a whole number. -/
def ofInt (value : Int) : Binary64 := ofRatio (value < 0) value.natAbs 1

/-- Neither an infinity nor the not-a-number. -/
def isFinite : Binary64 → Bool
  | .finite .. => true
  | _ => false

/-- A count of units with its sign. -/
def signed (negative : Bool) (units : Nat) : Int := if negative then -(units : Int) else units

/-- Where a number stands on the line, in units.  Both zeros stand at zero, the infinities at the ends
    of the range, beyond every finite number, and the not-a-number stands nowhere. -/
def place? : Binary64 → Option Int
  | .finite negative magnitude => some (signed negative magnitude.units)
  | .infinite negative => some (signed negative rangeEnd)
  | .nan => none

/-- Two numbers stand in a relation of their places; the not-a-number stands in none. -/
def compareBy (related : Int → Int → Bool) (a b : Binary64) : Bool :=
  match a.place?, b.place? with
  | some x, some y => related x y
  | _, _ => false

/-- Numeric equality: the two zeros are equal, the not-a-number equals nothing. -/
def eq : Binary64 → Binary64 → Bool := compareBy (fun x y => x == y)

/-- Strictly below. -/
def lt : Binary64 → Binary64 → Bool := compareBy (fun x y => decide (x < y))

/-- Below or equal. -/
def le : Binary64 → Binary64 → Bool := compareBy (fun x y => decide (x ≤ y))

/-- The whole number that a number stands for, if it stands for one. -/
def whole? : Binary64 → Option Int
  | .finite negative magnitude =>
    if magnitude.units % unitsPerOne = 0 then
      some (signed negative (magnitude.units / unitsPerOne))
    else none
  | _ => none

end Binary64

end RollConditions
