/-
  The numbers that facts carry.

  A fact is a text.  The fact `self:level:5` is that text and nothing else to a condition that asks for
  it by name; to a comparison it also says that the field `self:level` has the value 5.  In general a
  fact is a READING of a field path if it is the path, a colon, and a whole number of 64 bits: digits,
  after a minus or not.  A field has a value among some facts if exactly one fact is a reading of it.
-/

namespace RollConditions

namespace Fact

/-- The whole numbers that a reading can have: those of 64 bits with a sign. -/
def IsReadingRange (value : Int) : Prop := -0x8000000000000000 ≤ value ∧ value < 0x8000000000000000

instance (value : Int) : Decidable (IsReadingRange value) :=
  inferInstanceAs (Decidable (_ ∧ _))

/-- The number that one or more decimal digits write, leading zeros and all. -/
def digits? (written : List Char) : Option Nat :=
  if written ≠ [] ∧ written.all Char.isDigit then some (Nat.ofDigitChars 10 written 0) else none

/-- The whole number that digits write, after a minus or not. -/
def whole? : List Char → Option Int
  | '-' :: written => (digits? written).map (fun magnitude => -(magnitude : Int))
  | written => (digits? written).map Int.ofNat

/-- What the facts that are readings of a path begin with. -/
def stem (path : String) : List Char := path.toList ++ [':']

/-- The value that a fact gives to a field path, if it is a reading of it. -/
def reading? (path fact : String) : Option Int := do
  let written ← (stem path).isPrefixOf? fact.toList
  let value ← whole? written
  if IsReadingRange value then some value else none

/-- The scan behind `onlyReading?`: the reading seen so far, with its value, and the facts still to be
    looked at.  The scan ends early at a second, different reading. -/
def onlyReadingAfter? (path : String) : Option (String × Int) → List String → Option Int
  | seen, [] => seen.map (·.2)
  | seen, fact :: rest =>
    match reading? path fact with
    | none => onlyReadingAfter? path seen rest
    | some value =>
      match seen with
      | none => onlyReadingAfter? path (some (fact, value)) rest
      | some (first, _) => if first = fact then onlyReadingAfter? path seen rest else none

/-- The value of a field among some facts: that of its only reading.  A fact that is listed twice is
    still one fact, but two different texts are two readings, even of the same number. -/
def onlyReading? (path : String) (facts : List String) : Option Int := onlyReadingAfter? path none facts

end Fact

end RollConditions
