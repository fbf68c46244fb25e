/-
  The compact text of a JSON value: no blanks, one line.

  In a text only the quote, the backslash and the characters below the blank are escaped; all others
  stand for themselves.  Numbers of the floating kind have the layout `Layout.json`, so that they keep
  a point or an exponent and read back as numbers of the same kind.
-/
import RollConditions.Json.Basic
import RollConditions.Binary64.Layout

namespace RollConditions

namespace Json

/-! ## Texts -/

/-- The hexadecimal digit of a number below sixteen. -/
def hexDigit (n : Nat) : Char := Nat.digitChar n

/-- A character inside a quoted text. -/
def escaped (c : Char) : List Char :=
  if c = '"' then ['\\', '"']
  else if c = '\\' then ['\\', '\\']
  else if ' ' ≤ c then [c]
  else if c = '\x08' then ['\\', 'b']
  else if c = '\t' then ['\\', 't']
  else if c = '\n' then ['\\', 'n']
  else if c = '\x0c' then ['\\', 'f']
  else if c = '\r' then ['\\', 'r']
  else ['\\', 'u', '0', '0', hexDigit (c.toNat / 16), hexDigit (c.toNat % 16)]

/-- A text between quotes. -/
def quoted (text : String) : List Char := '"' :: (text.toList.flatMap escaped ++ ['"'])

/-! ## Values -/

/-- A whole number in decimal. -/
def wholeText (value : Int) : List Char :=
  if value < 0 then '-' :: Nat.toDigits 10 value.natAbs else Nat.toDigits 10 value.natAbs

/-- The text of a number. -/
def Number.characters : Number → List Char
  | .whole value _ => wholeText value
  | .float negative magnitude => (Layout.json.text (.finite negative magnitude)).toList

mutual

/-- The characters of a value. -/
def characters : Json → List Char
  | .null => ['n', 'u', 'l', 'l']
  | .bool true => ['t', 'r', 'u', 'e']
  | .bool false => ['f', 'a', 'l', 's', 'e']
  | .number value => value.characters
  | .text value => quoted value
  | .list [] => ['[', ']']
  | .list (item :: rest) => '[' :: (characters item ++ itemCharacters rest ++ [']'])
  | .object [] => ['{', '}']
  | .object ((name, value) :: rest) =>
    '{' :: (quoted name ++ ':' :: (characters value ++ fieldCharacters rest ++ ['}']))

/-- The items of a list after the first one. -/
def itemCharacters : List Json → List Char
  | [] => []
  | item :: rest => ',' :: (characters item ++ itemCharacters rest)

/-- The fields of an object after the first one. -/
def fieldCharacters : List (String × Json) → List Char
  | [] => []
  | (name, value) :: rest =>
    ',' :: (quoted name ++ ':' :: (characters value ++ fieldCharacters rest))

end

/-- The compact text of a value. -/
def compact (value : Json) : String := String.ofList value.characters

end Json

end RollConditions
