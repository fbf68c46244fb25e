/-
  The parts of a written number, and the numbers that its digits make.
-/
import RollConditions.Binary64.Decimal
import RollConditions.Document.Node

namespace RollConditions

namespace Document

/-! ## Cutting a number out of a text -/

/-- The digits at the beginning of a text, and what follows them. -/
def spanDigits (text : List Char) : List Char × List Char :=
  (text.takeWhile Char.isDigit, text.dropWhile Char.isDigit)

/-- The power of ten after its mark, and what follows it; at least one digit is needed. -/
def tenPower? (text : List Char) : Option (TenPower × List Char) :=
  let (sign, text) : Option Sign × List Char :=
    match text with
    | '+' :: rest => (some .plus, rest)
    | '-' :: rest => (some .minus, rest)
    | _ => (none, text)
  match spanDigits text with
  | ([], _) => none
  | (digits, rest) => some (⟨sign, digits⟩, rest)

/-! ## Numbers from digits -/

/-- The number that decimal digits write; none write zero. -/
def digitsValue (digits : List Char) : Nat := Nat.ofDigitChars 10 digits 0

/-- The exponent that a power of ten writes. -/
def TenPower.value (power : TenPower) : Int :=
  match power.sign with
  | some .minus => -(digitsValue power.digits : Int)
  | _ => digitsValue power.digits

/-- The exponent at the end of a number, zero without one. -/
def powerValue (power : Option TenPower) : Int := (power.map TenPower.value).getD 0

/-- All digits of a number as one, with the power of ten that they count. -/
def exactDecimal (whole : List Char) (fraction : Option (List Char)) (power : Option TenPower) :
    Decimal :=
  let behind := fraction.getD []
  ⟨digitsValue (whole ++ behind), powerValue power - behind.length⟩

/-- Digits put after a number as long as it keeps to 64 bits, and how many of them were. -/
def gather (value : Nat) : List Char → Nat × Nat
  | [] => (value, 0)
  | digit :: rest =>
    let longer := Nat.ofDigitChars 10 [digit] value
    if longer < 0x10000000000000000 then
      let (gathered, count) := gather longer rest
      (gathered, count + 1)
    else (value, 0)

/-- The digits of a number as far as they keep to 64 bits.  Digits before the point that are left out
    raise the power of ten that the others count; digits behind it that are left out change nothing. -/
def gatheredDecimal (whole : List Char) (fraction : Option (List Char)) (power : Option TenPower) :
    Decimal :=
  let (ahead, aheadCount) := gather 0 whole
  let (all, behindCount) := gather ahead (fraction.getD [])
  ⟨all, powerValue power + (whole.length - aheadCount : Nat) - behindCount⟩

end Document

end RollConditions
