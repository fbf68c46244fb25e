/-
  The text of a binary64 number.

  The digits are always the fewest that read back; what differs from one place to another is how they
  are laid out.  A `Layout` holds those decisions, and this library has three of them: numbers inside
  JSON text, numbers shown to a reader, and numbers shown to a reader who must see that they are not
  whole numbers of the integer kind.
-/
import RollConditions.Binary64.Decimal

namespace RollConditions

/-! ## Laying out the digits of a decimal -/

namespace Decimal

/-- The digits of a decimal, most significant first. -/
def digitText (d : Decimal) : List Char := Nat.toDigits 10 d.digits

/-- The power of ten of the leading digit. -/
def lead (d : Decimal) : Int := (d.digitText.length : Int) - 1 + d.exponent

/-- Digits and point, padded with zeros and never an exponent; `wholeMark` follows a whole number. -/
def positional (wholeMark : String) (d : Decimal) : String :=
  let digits := d.digitText
  let places := (-d.exponent).toNat
  if places = 0 then String.ofList (digits ++ List.replicate d.exponent.toNat '0') ++ wholeMark
  else if places < digits.length then
    let whole := digits.length - places
    String.ofList (digits.take whole ++ '.' :: digits.drop whole)
  else String.ofList ('0' :: '.' :: (List.replicate (places - digits.length) '0' ++ digits))

/-- One digit before the point, the others after it, and the exponent with its sign. -/
def scientific (d : Decimal) : String :=
  let mantissa :=
    match d.digitText with
    | first :: second :: rest => first :: '.' :: second :: rest
    | digits => digits
  let mark := if d.lead < 0 then "e-" else "e+"
  String.ofList mantissa ++ mark ++ toString d.lead.natAbs

end Decimal

/-! ## Layouts -/

/-- How the text of a number looks. -/
structure Layout where
  /-- The choice between two equally near texts of the fewest digits. -/
  tie : TieRule
  /-- The leading exponents that are written without an exponent. -/
  isPositional : Int → Bool
  /-- What follows a whole number written without an exponent. -/
  wholeMark : String

namespace Layout

/-- Numbers in JSON text: positional from five zeros after the point up to sixteen digits before it,
    with at least one digit after the point; a tie goes to the even digit. -/
def json : Layout := ⟨.toEven, fun lead => -5 ≤ lead && lead ≤ 15, ".0"⟩

/-- Numbers shown to a reader: never an exponent, nothing after a whole number; a tie goes up. -/
def plain : Layout := ⟨.up, fun _ => true, ""⟩

/-- Numbers shown to a reader as numbers of the floating kind, also the whole ones. -/
def pointed : Layout := ⟨.up, fun _ => true, ".0"⟩

/-- The text of a magnitude. -/
def magnitude (layout : Layout) (m : Magnitude) : String :=
  let d := m.shortest layout.tie
  if layout.isPositional d.lead then d.positional layout.wholeMark else d.scientific

/-- The text of a number. -/
def text (layout : Layout) : Binary64 → String
  | .finite negative m => (if negative then "-" else "") ++ layout.magnitude m
  | .infinite negative => if negative then "-inf" else "inf"
  | .nan => "NaN"

end Layout

end RollConditions
