/-
  Written documents: what a text says before it is known what is wanted of it.

  A `Node` is a document as it was written.  Texts are still in pieces, since an escape may stand for
  half a character, and numbers are still digits, since it depends on the kind of document which of
  them have a value.  Where the text stops being a document the node is `broken` and the lists and
  objects around it are not closed: a reader that goes through a node from left to right meets the fault
  exactly where the text has it, after all that stands before.
-/

namespace RollConditions

namespace Document

/-- A piece of a quoted text. -/
inductive Piece where
  /-- A character, with the characters that wrote it, the marks of an escape left out. -/
  | character (value : Char) (written : List Char)
  /-- Four hexadecimal digits that number a UTF-16 unit. -/
  | unit (digits : List Char)
deriving DecidableEq

namespace Piece

/-- A character that stands for itself. -/
def plain (value : Char) : Piece := .character value [value]

/-- The characters that wrote a piece. -/
def written : Piece → List Char
  | character _ written => written
  | unit digits => digits

end Piece

/-- The sign in front of a number. -/
inductive Sign where
  | plus
  | minus
deriving DecidableEq

/-- The power of ten at the end of a number. -/
structure TenPower where
  sign : Option Sign
  digits : List Char
deriving DecidableEq

/-- What follows the sign of a number. -/
inductive NumeralBody where
  /-- Digits, a fraction after a point, a power of ten; the digits on one side of the point may lack. -/
  | decimal (whole : List Char) (fraction : Option (List Char)) (power : Option TenPower)
  /-- Hexadecimal digits. -/
  | hexadecimal (digits : List Char)
  /-- The word for what is past the end of the range. -/
  | infinity
  /-- The words for no number. -/
  | notANumber
deriving DecidableEq

/-- A number as it was written. -/
structure Numeral where
  sign : Option Sign
  body : NumeralBody
deriving DecidableEq

/-- A document as it was written. -/
inductive Node where
  | null
  | bool (value : Bool)
  | number (numeral : Numeral)
  | text (pieces : List Piece)
  /-- A list; not closed if the text stops being a document inside it. -/
  | list (items : List Node) (closed : Bool)
  /-- An object; not closed if the text stops being a document inside it. -/
  | object (fields : List (List Piece × Node)) (closed : Bool)
  /-- The place where a value is due and none is written. -/
  | broken
deriving Inhabited

end Document

end RollConditions
