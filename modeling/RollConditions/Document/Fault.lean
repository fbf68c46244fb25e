/-
  What can be wrong with a document, and how it is said.

  Some faults are the text's own: it is no document of its kind, or a number or an escape in it has no
  value.  The others say that a value is not of the shape that is wanted.  The wording of the latter
  depends on the kind of document in three points, which `Wording` names.  A text that a message is about
  stands in it between quotes, with nothing in it that would not show.
-/
import RollConditions.Binary64.Layout
import RollConditions.Statement.Error
import RollConditions.Text.CharacterClass

namespace RollConditions

/-! ## Texts between quotes

    What would not show is spelled out: the usual controls by a letter, every other character without a
    glyph, and every one that would join its neighbour, by its code point. -/

namespace Text

/-- A character as it stands between the quotes. -/
def visible (c : Char) : List Char :=
  if c = '\x00' then ['\\', '0']
  else if c = '\t' then ['\\', 't']
  else if c = '\r' then ['\\', 'r']
  else if c = '\n' then ['\\', 'n']
  else if c = '\\' then ['\\', '\\']
  else if c = '"' then ['\\', '"']
  else if isExtender c || !isShown c then
    ['\\', 'u', '\x7b'] ++ Nat.toDigits 16 c.toNat ++ ['\x7d']
  else [c]

/-- A text between quotes, with nothing in it that would not show. -/
def quoted (text : String) : String :=
  String.ofList ('"' :: (text.toList.flatMap visible ++ ['"']))

end Text

/-! ## Faults -/

    namespace Document

    /-- What was found where something else is wanted. -/
inductive Found where
  | null
  | bool (value : Bool)
  | whole (value : Int)
  | float (value : Binary64)
  | text (value : String)
  | list
  | object
deriving DecidableEq

/-- What is wanted. -/
inductive Expected where
  | bool
  | text
  | list
  | object
  /-- A record with fields of its own, by its name. -/
  | record (name : String)
deriving DecidableEq

/-- What can be wrong with a document. -/
inductive Fault where
  /-- The text is no document of its kind. -/
  | malformed
  /-- The digits of a whole number have no value of 64 bits. -/
  | wholeNumber
  /-- Hexadecimal digits have no value of 32 bits, or there are none. -/
  | hexadecimal
  /-- The digits of a number have no value. -/
  | number
  /-- A number is past the end of the range. -/
  | numberTooLarge
  /-- The second half of a character without the first. -/
  | strayTrail
  /-- The first half of a character at the end of a text. -/
  | missingTrail
  /-- The first half of a character before something that is not the second. -/
  | notTrail
  /-- A value of another shape than the one that is wanted. -/
  | wrongShape (found : Found) (expected : Expected)
  /-- A field of a record for the second time. -/
  | duplicateField (name : String)
  /-- A value that is no raw statement. -/
  | statement (error : StatementError)
deriving Inhabited

/-- How a kind of document words what its rules and its values differ in. -/
structure Wording where
  /-- A text that is no document of the kind.  The parser of the kind has a sentence of its own for each
      such text; one mark stands for all of them. -/
  malformed : String
  /-- The empty value. -/
  null : String
  /-- Numbers that are not whole. -/
  float : Layout

namespace Found

/-- What was found, in words. -/
def inWords (wording : Wording) : Found → String
  | null => wording.null
  | bool value => "boolean `" ++ toString value ++ "`"
  | whole value => "integer `" ++ toString value ++ "`"
  | float value => "floating point `" ++ wording.float.text value ++ "`"
  | .text value => "string " ++ Text.quoted value
  | list => "sequence"
  | object => "map"

end Found

namespace Expected

/-- What is wanted, in words. -/
def inWords : Expected → String
  | bool => "a boolean"
  | .text => "a string"
  | list => "a sequence"
  | object => "a map"
  | record name => "struct " ++ name

end Expected

namespace Fault

/-- The message for a fault in a kind of document. -/
def message (wording : Wording) : Fault → String
  | malformed => wording.malformed
  | wholeNumber => "error parsing integer"
  | hexadecimal => "error parsing hex"
  | number => "error parsing number"
  | numberTooLarge => "error parsing number: too large"
  | strayTrail => "unexpected unicode trail surrogate"
  | missingTrail => "missing unicode trail surrogate"
  | notTrail => "expecting unicode trail surrogate"
  | wrongShape found expected =>
    "invalid type: " ++ found.inWords wording ++ ", expected " ++ expected.inWords
  | duplicateField name => "duplicate field `" ++ name ++ "`"
  | statement error => error.message

end Fault

end Document

end RollConditions
