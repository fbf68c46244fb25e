/-
  Strict JSON.

  Reading goes along with the text, so what is wrong with a value counts before a fault that comes after
  it.  Whole numbers of 64 bits are whole numbers, but `-0` is a binary64 zero; other numbers are
  rounded twice, see `Decimal.scaledMagnitude?`.  Lists and objects may stand inside one another 127
  deep.
-/
import RollConditions.Document.Dialect
import RollConditions.Document.Numeral
import RollConditions.Document.Pieces

namespace RollConditions

namespace Document

namespace Strict

/-! ## Tokens -/

/-- The character that an escape with one letter stands for. -/
def escape? : Char → Option Char
  | '"' => some '"'
  | '\\' => some '\\'
  | '/' => some '/'
  | 'b' => some '\x08'
  | 'f' => some '\x0c'
  | 'n' => some '\n'
  | 'r' => some '\r'
  | 't' => some '\t'
  | _ => none

/-- The pieces of a text after its opening quote, and how many characters they and the closing quote
    take. -/
def quoted? : List Char → Option (List Piece × Nat)
  | [] => none
  | '"' :: _ => some ([], 1)
  | '\\' :: 'u' :: a :: b :: c :: d :: rest =>
    if (hexValue? [a, b, c, d]).isSome then
      (quoted? rest).map (fun (pieces, count) => (.unit [a, b, c, d] :: pieces, count + 6))
    else none
  | '\\' :: letter :: rest =>
    match escape? letter with
    | some value =>
      (quoted? rest).map (fun (pieces, count) => (.character value [letter] :: pieces, count + 2))
    | none => none
  | c :: rest =>
    if c < ' ' then none
    else (quoted? rest).map (fun (pieces, count) => (.plain c :: pieces, count + 1))

/-- The digits before the point, and what follows them: a zero only stands alone. -/
def whole? (text : List Char) : Option (List Char × List Char) :=
  match spanDigits text with
  | ([], _) => none
  | (['0'], rest) => some (['0'], rest)
  | ('0' :: _, _) => none
  | (digits, rest) => some (digits, rest)

/-- The fraction at the beginning of a text, if there is one, and what follows it; none if a point has
    no digits behind it. -/
def fraction? : List Char → Option (Option (List Char) × List Char)
  | '.' :: rest =>
    match spanDigits rest with
    | ([], _) => none
    | (digits, rest) => some (some digits, rest)
  | text => some (none, text)

/-- The power of ten at the beginning of a text, if there is one, and what follows it; none if the mark
    has no digits behind it. -/
def power? : List Char → Option (Option TenPower × List Char)
  | 'e' :: rest => (tenPower? rest).map (fun (power, rest) => (some power, rest))
  | 'E' :: rest => (tenPower? rest).map (fun (power, rest) => (some power, rest))
  | text => some (none, text)

/-- The number at the beginning of a text, and what follows it. -/
def numeral? (text : List Char) : Option (Numeral × List Char) := do
  let (sign, text) : Option Sign × List Char :=
    match text with
    | '-' :: rest => (some .minus, rest)
    | _ => (none, text)
  let (whole, text) ← whole? text
  let (fraction, text) ← fraction? text
  let (power, text) ← power? text
  return (⟨sign, .decimal whole fraction power⟩, text)

/-- A word, if the text goes on with the rest of it. -/
def word (first : Char) (others : String) (rest : List Char) : Lexeme :=
  if others.toList.isPrefixOf rest then
    .token (.word ((first :: others.toList).map Piece.plain)) others.length
  else .fault

/-- What stands at the beginning of a text. -/
def lexeme (first : Char) (rest : List Char) : Lexeme :=
  match first with
  | ' ' | '\n' | '\t' | '\r' => .blank 0
  | '[' => .token .openList 0
  | ']' => .token .closeList 0
  | '{' => .token .openObject 0
  | '}' => .token .closeObject 0
  | ',' => .token .comma 0
  | ':' => .token .colon 0
  | '"' =>
    match quoted? rest with
    | some (pieces, count) => .token (.text pieces) count
    | none => .fault
  | 'n' => word first "ull" rest
  | 't' => word first "rue" rest
  | 'f' => word first "alse" rest
  | _ =>
    match numeral? (first :: rest) with
    | some (numeral, after) => .token (.number numeral) (rest.length - after.length)
    | none => .fault

/-- Keys have quotes, and a comma is followed by something. -/
def grammar : Grammar where
  trailingComma := false
  bareKey := false
  words := [("null", .null), ("true", .bool true), ("false", .bool false)]

/-! ## Values -/

/-- The text of pieces; half a character has no place in it. -/
def text (pieces : List Piece) : Except Fault String :=
  match piecesText utf16Join pieces with
  | .ok characters => .ok (String.ofList characters)
  | .error _ => .error .malformed

/-- A signed decimal as a binary64 number. -/
def float (negative : Bool) (decimal : Decimal) : Except Fault Amount :=
  match decimal.scaledMagnitude? with
  | some magnitude => .ok (.float (.finite negative magnitude))
  | none => .error .malformed

/-- The value of a number. -/
def amount (numeral : Numeral) : Except Fault Amount :=
  let negative := numeral.sign == some .minus
  match numeral.body with
  | .decimal whole none none =>
    let digits := digitsValue whole
    let value : Int := if negative then -digits else digits
    if negative && digits == 0 then .ok (.float (.finite true Magnitude.zero))
    else if h : Json.IsWholeRange value then .ok (.whole value h)
    else float negative (gatheredDecimal whole none none)
  | .decimal whole fraction power => float negative (gatheredDecimal whole fraction power)
  | _ => .error .malformed

/-- What the parts of a document mean. -/
def dialect : Dialect where
  text := text
  amount := amount
  depthLimit := some 127
  surplusAllowed := false
  checksUnread := false
  -- the mark stands for the sentence of the parser package, which is not written out here
  wording := ⟨"<json syntax error>", "null", Layout.json⟩

end Strict

/-- Strict JSON. -/
def strictJson : Format where
  lexeme := Strict.lexeme
  grammar := Strict.grammar
  dialect := Strict.dialect
  wholeFirst := false

end Document

end RollConditions
