/-
  The text that pieces make up.

  A UTF-16 unit is a character of its own, unless it is half of one: then the first half must come
  before the second one, and the two make a character together.  Each half has ten bits of its code
  point.  In UTF-16 the twenty bits count from the first code point past those of single units, but not
  every kind of document keeps to that, so the rule is a parameter.
-/
import RollConditions.Document.Fault
import RollConditions.Document.Node

namespace RollConditions

namespace Document

/-- The value of a hexadecimal digit. -/
def hexDigit? (c : Char) : Option Nat :=
  if c.isDigit then some (c.toNat - '0'.toNat)
  else if 'a' ≤ c ∧ c ≤ 'f' then some (c.toNat - 'a'.toNat + 10)
  else if 'A' ≤ c ∧ c ≤ 'F' then some (c.toNat - 'A'.toNat + 10)
  else none

/-- The number that hexadecimal digits write, if there is at least one and nothing else. -/
def hexValue? (digits : List Char) : Option Nat :=
  if digits = [] then none
  else do
    let values ← digits.mapM hexDigit?
    return values.foldl (fun value digit => 16 * value + digit) 0

/-- The number of a UTF-16 unit. -/
def unitValue (digits : List Char) : Nat := (hexValue? digits).getD 0

/-- Whether a unit is the first half of a character. -/
def isLead (unit : Nat) : Bool := 0xD800 ≤ unit && unit ≤ 0xDBFF

/-- Whether a unit is the second half of a character. -/
def isTrail (unit : Nat) : Bool := 0xDC00 ≤ unit && unit ≤ 0xDFFF

/-- The twenty bits of two halves. -/
def halvesBits (lead trail : Nat) : Nat := (lead - 0xD800) * 0x400 + (trail - 0xDC00)

/-- The first code point past those of single units. -/
def firstJoined : Nat := 0x10000

/-- The code point that two halves stand for in UTF-16: their bits count from the first one past those of
    single units. -/
def utf16Join (bits : Nat) : Nat := firstJoined + bits

/-- What is wrong after the first half of a character. -/
def trailFault : List Piece → Fault
  | [] => .missingTrail
  | piece :: _ => if (hexValue? piece.written).isSome then .notTrail else .hexadecimal

/-- The characters that pieces make up; `join` is the code point for the bits of two halves. -/
def piecesText (join : Nat → Nat) : List Piece → Except Fault (List Char)
  | [] => .ok []
  | .character value _ :: rest => (piecesText join rest).map (value :: ·)
  | .unit lead :: .unit trail :: rest =>
    if isTrail (unitValue lead) then .error .strayTrail
    else if isLead (unitValue lead) then
      if isTrail (unitValue trail) then
        (piecesText join rest).map
          (Char.ofNat (join (halvesBits (unitValue lead) (unitValue trail))) :: ·)
      else .error .notTrail
    else (piecesText join (.unit trail :: rest)).map (Char.ofNat (unitValue lead) :: ·)
  | .unit digits :: rest =>
    if isTrail (unitValue digits) then .error .strayTrail
    else if isLead (unitValue digits) then .error (trailFault rest)
    else (piecesText join rest).map (Char.ofNat (unitValue digits) :: ·)

end Document

end RollConditions
