/-
  Decimals and binary64 numbers: reading digits, and choosing digits to write.

  A decimal is a count of digits with a power of ten.  Two rules read one.  `Decimal.toBinary64` takes
  the nearest number, rounding once.  `Decimal.scaledMagnitude?` rounds the digits first and then
  multiplies or divides by a rounded power of ten, so that it rounds twice and may land on a neighbour:
  it is the rule of the strict JSON reader of this library, and `9007199254740993.0` shows it.

  `Magnitude.shortest` goes the other way.  Among the decimals that lie in the interval of a magnitude,
  the reals that round to it, it takes one of the fewest digits, and of those the nearest.  On a grid
  of powers of ten only the two neighbours of the value need a test: if any point of the grid lies in
  the interval, one of the two does.
-/
import RollConditions.Binary64.Basic

namespace RollConditions

/-- The number `digits * 10 ^ exponent`. -/
structure Decimal where
  /-- All digits, as one number. -/
  digits : Nat
  /-- The power of ten that they count. -/
  exponent : Int
deriving DecidableEq, Inhabited

/-! ## From decimal to binary -/

namespace Decimal

/-- The nearest number to a decimal.  An exponent so large or so small that every digit count leaves the
    range is answered at once, before a power of ten is worked out. -/
def toBinary64 (negative : Bool) (d : Decimal) : Binary64 :=
  if d.digits = 0 then .finite negative Magnitude.zero
  else if 400 < d.exponent then .infinite negative
  else if 0 ≤ d.exponent then .ofRatio negative (d.digits * Nat.pow 10 d.exponent.toNat) 1
  else if d.digits.log2 + 1100 < d.exponent.natAbs then .finite negative Magnitude.zero
  else .ofRatio negative d.digits (Nat.pow 10 d.exponent.natAbs)

/-- A power of ten rounded to a magnitude; the greatest in range is the 308th. -/
def powerOfTen? (exponent : Nat) : Option Magnitude :=
  Magnitude.nearest? (Nat.pow 10 exponent * unitsPerOne) 1

/-- The exponent of the greatest power of ten in range. -/
def greatestTens : Nat := 308

/-- Division by the same magnitude again and again, rounding each time; zero stays zero. -/
def divideTimes? (divisor : Magnitude) : Nat → Magnitude → Option Magnitude
  | 0, magnitude => some magnitude
  | times + 1, magnitude =>
    if magnitude.units = 0 then some magnitude
    else do divideTimes? divisor times (← magnitude.div? divisor)

/-- A magnitude divided by `10 ^ tens`: by the greatest power of ten in range as long as more than that
    is left, then by the rest. -/
def divideByTens? (magnitude : Magnitude) (tens : Nat) : Option Magnitude := do
  let whole := (tens - 1) / greatestTens
  let reduced ← divideTimes? (← powerOfTen? greatestTens) whole magnitude
  reduced.div? (← powerOfTen? (tens - whole * greatestTens))

/-- The digits rounded to a magnitude, then scaled by a rounded power of ten and rounded again; none
    past the end of the range. -/
def scaledMagnitude? (d : Decimal) : Option Magnitude := do
  let magnitude ← Magnitude.nearest? (d.digits * unitsPerOne) 1
  if d.exponent < 0 then divideByTens? magnitude d.exponent.natAbs
  else if d.exponent.toNat ≤ greatestTens then magnitude.mul? (← powerOfTen? d.exponent.toNat)
  else if magnitude.units = 0 then some magnitude
  else none

/-- The same number without trailing zeros among its digits; zero has exponent zero. -/
def normal (d : Decimal) : Decimal :=
  if d.digits = 0 then ⟨0, 0⟩
  else
    let written := Nat.toDigits 10 d.digits
    let zeros := (written.reverse.takeWhile (· = '0')).length
    ⟨d.digits / Nat.pow 10 zeros, d.exponent + zeros⟩

end Decimal

/-! ## From binary to decimal -/

/-- Which decimal to take when two of the fewest digits are equally near. -/
inductive TieRule where
  /-- The one with an even last digit. -/
  | toEven
  /-- The greater one. -/
  | up
deriving DecidableEq

namespace Magnitude

/-- The distance to the next magnitude below: half a step where the magnitude is a power of two, the
    first of its binade. -/
def gapBelow (m : Magnitude) : Nat := gridStep (m.units - 1)

/-- Whether a number given in half units rounds to the magnitude: the ends of the interval do if the
    magnitude has an even count of steps. -/
def attracts (m : Magnitude) (halfUnits scale : Nat) : Bool :=
  let low := (2 * m.units - m.gapBelow) * scale
  let high := (2 * m.units + gridStep m.units) * scale
  if m.units / gridStep m.units % 2 = 0 then low ≤ halfUnits && halfUnits ≤ high
  else low < halfUnits && halfUnits < high

/-- The exponent of the leading decimal digit, for a magnitude above zero.  The scale makes every such
    magnitude at least one, so that its digits can be counted. -/
def leadingExponent (m : Magnitude) : Int :=
  (Nat.toDigits 10 (m.units * Nat.pow 10 350 / unitsPerOne)).length - 351

/-- The decimal of the grid `10 ^ exponent` that rounds to the magnitude, the nearer of two. -/
def onGrid? (tie : TieRule) (m : Magnitude) (exponent : Int) : Option Decimal :=
  -- the value on this grid is `num / den`, one of the two powers being 1
  let tens := Nat.pow 10 exponent.toNat
  let tenths := Nat.pow 10 (-exponent).toNat
  let num := m.units * tenths
  let den := unitsPerOne * tens
  let down := num / den
  let hit (digits : Nat) : Bool := m.attracts (2 * digits * den) tenths
  let upIsNearer :=
    let twice := 2 * (num % den)
    den < twice || (twice == den && (tie == .up || down % 2 == 1))
  match hit down, hit (down + 1) with
  | true, true => some ⟨if upIsNearer then down + 1 else down, exponent⟩
  | true, false => some ⟨down, exponent⟩
  | false, true => some ⟨down + 1, exponent⟩
  | false, false => none

/-- The decimal equal to the magnitude: `2 ^ -1074` is `5 ^ 1074 * 10 ^ -1074`. -/
def exactly (m : Magnitude) : Decimal := ⟨m.units * Nat.pow 5 1074, -1074⟩

/-- The fewest digits that round to the magnitude, of those the nearest.  Seventeen digits tell all
    magnitudes apart, so the search ends before the decimal that is equal to it is needed. -/
def shortest (tie : TieRule) (m : Magnitude) : Decimal :=
  if m.units = 0 then ⟨0, 0⟩
  else
    let lead := m.leadingExponent
    let found := (List.range 17).findSome? (fun (places : Nat) => m.onGrid? tie (lead - places))
    (found.getD m.exactly).normal

end Magnitude

end RollConditions
