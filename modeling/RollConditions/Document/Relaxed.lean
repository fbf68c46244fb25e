/-
  JSON5, the kind of JSON that is written by hand.

  There are comments, keys and texts may do without quotes or have single ones, a comma may end a list,
  and numbers may have a sign, a bare point, hexadecimal digits, or be infinite or no number.  A text is
  looked at as a whole before anything is read from it, so no fault of the values counts in a text that
  is no document.  What the values may be is narrower than what may be written: whole numbers have 64
  bits with a sign, hexadecimal ones 32 bits without, and a number past the end of the range is refused.
-/
import RollConditions.Document.Dialect
import RollConditions.Document.Numeral
import RollConditions.Document.Pieces
import RollConditions.Text.CharacterClass

namespace RollConditions

namespace Document

namespace Relaxed

/-! ## Blanks and comments -/

/-- Characters that end a line. -/
def isLineEnd (c : Char) : Bool := c = '\n' || c = '\r' || c = '\u2028' || c = '\u2029'

/-- Blanks within a line: the usual ones, the byte order mark, and the separators of the category Zs. -/
def isSpace (c : Char) : Bool :=
  c = '\t' || c = '\x0b' || c = '\x0c' || c = ' ' || c = '\u00a0' || c = '\ufeff' || c = '\u1680' ||
    ('\u2000' ≤ c && c ≤ '\u200a') || c = '\u202f' || c = '\u205f' || c = '\u3000'

/-- How many characters a comment between stars takes after its opening, if it ends. -/
def blockComment? : List Char → Option Nat
  | [] => none
  | '*' :: '/' :: _ => some 2
  | _ :: rest => (blockComment? rest).map (· + 1)

/-- A comment after its first slash. -/
def comment : List Char → Lexeme
  | '/' :: rest => .blank (1 + (rest.takeWhile (fun c => !isLineEnd c)).length)
  | '*' :: rest =>
    match blockComment? rest with
    | some count => .blank (1 + count)
    | none => .fault
  | _ => .fault

/-! ## Words and texts -/

/-- Characters that may begin a word. -/
def beginsWord (c : Char) : Bool := Text.isLetter c || c = '$' || c = '_'

/-- Characters that may go on a word. -/
def continuesWord (c : Char) : Bool :=
  beginsWord c || Text.isNameMark c || c = '\u200c' || c = '\u200d'

/-- The pieces that go on a word, and how many characters they take. -/
def wordPieces : List Char → List Piece × Nat
  | '\\' :: 'u' :: a :: b :: c :: d :: rest =>
    if (hexValue? [a, b, c, d]).isSome then
      let (pieces, count) := wordPieces rest
      (.unit [a, b, c, d] :: pieces, count + 6)
    else ([], 0)
  | c :: rest =>
    if continuesWord c then
      let (pieces, count) := wordPieces rest
      (.plain c :: pieces, count + 1)
    else ([], 0)
  | [] => ([], 0)

/-- The character that an escape with one letter stands for: a control, or the letter itself.  Digits
    other than zero, and the marks of hexadecimal escapes, are none. -/
def escape? (letter : Char) : Option Char :=
  match letter with
  | 'b' => some '\x08'
  | 'f' => some '\x0c'
  | 'n' => some '\n'
  | 'r' => some '\r'
  | 't' => some '\t'
  | 'v' => some '\x0b'
  | '0' => some '\x00'
  | 'x' | 'u' => none
  | _ => if letter.isDigit then none else some letter

/-- The pieces of a text after its opening quote, and how many characters they and the closing quote
    take.  An escaped end of line is no piece at all. -/
def quoted? (quote : Char) : List Char → Option (List Piece × Nat)
  | [] => none
  | '\\' :: 'u' :: a :: b :: c :: d :: rest =>
    if (hexValue? [a, b, c, d]).isSome then
      (quoted? quote rest).map (fun (pieces, count) => (.unit [a, b, c, d] :: pieces, count + 6))
    else none
  | '\\' :: 'x' :: a :: b :: rest =>
    match hexValue? [a, b] with
    | some value =>
      (quoted? quote rest).map
        (fun (pieces, count) => (.character (Char.ofNat value) [a, b] :: pieces, count + 4))
    | none => none
  | '\\' :: '\r' :: '\n' :: rest =>
    (quoted? quote rest).map (fun (pieces, count) => (pieces, count + 3))
  | '\\' :: letter :: rest =>
    if isLineEnd letter then (quoted? quote rest).map (fun (pieces, count) => (pieces, count + 2))
    else
      match escape? letter with
      | some value =>
        (quoted? quote rest).map
          (fun (pieces, count) => (.character value [letter] :: pieces, count + 2))
      | none => none
  | c :: rest =>
    if c = quote then some ([], 1)
    else if c = '\\' || isLineEnd c then none
    else (quoted? quote rest).map (fun (pieces, count) => (.plain c :: pieces, count + 1))

/-! ## Numbers -/

/-- The power of ten at the beginning of a text, if there is one, and what follows it. -/
def power (text : List Char) : Option TenPower × List Char :=
  let found :=
    match text with
    | 'e' :: rest => tenPower? rest
    | 'E' :: rest => tenPower? rest
    | _ => none
  match found with
  | some (power, rest) => (some power, rest)
  | none => (none, text)

/-- The digits before the point, and what follows them: none, or a zero alone, or no zero first. -/
def whole (text : List Char) : List Char × List Char :=
  match text with
  | '0' :: rest => (['0'], rest)
  | _ => spanDigits text

/-- The unsigned decimal number at the beginning of a text, and what follows it: digits before or
    behind the point. -/
def decimal? (text : List Char) : Option (NumeralBody × List Char) :=
  let (ahead, text) := whole text
  let (fraction, text) : Option (List Char) × List Char :=
    match text with
    | '.' :: rest => ((spanDigits rest).1, (spanDigits rest).2)
    | _ => (none, text)
  if ahead = [] ∧ fraction.getD [] = [] then none
  else
    let (power, text) := power text
    some (.decimal ahead fraction power, text)

/-- The unsigned number at the beginning of a text, and what follows it. -/
def body? (text : List Char) : Option (NumeralBody × List Char) :=
  let hexadecimal (rest : List Char) : Option (NumeralBody × List Char) :=
    match rest.takeWhile (fun c => (hexDigit? c).isSome) with
    | [] => decimal? text
    | digits => some (.hexadecimal digits, rest.drop digits.length)
  match text with
  | '0' :: 'x' :: rest => hexadecimal rest
  | '0' :: 'X' :: rest => hexadecimal rest
  | _ =>
    match "Infinity".toList.isPrefixOf? text, "NaN".toList.isPrefixOf? text with
    | some rest, _ => some (.infinity, rest)
    | _, some rest => some (.notANumber, rest)
    | _, _ => decimal? text

/-- The number at the beginning of a text, and what follows it. -/
def numeral? (text : List Char) : Option (Numeral × List Char) :=
  let (sign, unsigned) : Option Sign × List Char :=
    match text with
    | '+' :: rest => (some .plus, rest)
    | '-' :: rest => (some .minus, rest)
    | _ => (none, text)
  (body? unsigned).map (fun (body, rest) => (⟨sign, body⟩, rest))

/-! ## Tokens -/

/-- A word, or a number if no word begins here. -/
def wordOrNumber (first : Char) (rest : List Char) : Lexeme :=
  match wordPieces (first :: rest), beginsWord first || first = '\\' with
  | (piece :: pieces, count + 1), true => .token (.word (piece :: pieces)) count
  | _, _ =>
    match numeral? (first :: rest) with
    | some (numeral, after) => .token (.number numeral) (rest.length - after.length)
    | none => .fault

/-- What stands at the beginning of a text. -/
def lexeme (first : Char) (rest : List Char) : Lexeme :=
  if isSpace first || isLineEnd first then .blank 0
  else
    match first with
    | '[' => .token .openList 0
    | ']' => .token .closeList 0
    | '{' => .token .openObject 0
    | '}' => .token .closeObject 0
    | ',' => .token .comma 0
    | ':' => .token .colon 0
    | '/' => comment rest
    | '"' | '\x27' =>
      match quoted? first rest with
      | some (pieces, count) => .token (.text pieces) count
      | none => .fault
    | _ => wordOrNumber first rest

/-- Keys may be words, a comma may come last, and two words are numbers. -/
def grammar : Grammar where
  trailingComma := true
  bareKey := true
  words :=
    [("null", .null), ("true", .bool true), ("false", .bool false),
      ("Infinity", .number ⟨none, .infinity⟩), ("NaN", .number ⟨none, .notANumber⟩)]

/-! ## Values -/

/-- A whole number of 64 bits with a sign. -/
def wholeNumber (value : Int) : Except Fault Amount :=
  if h : -0x8000000000000000 ≤ value ∧ value < 0x8000000000000000 then
    .ok (.whole value ⟨h.1, Int.lt_trans h.2 (by decide)⟩)
  else .error .wholeNumber

/-- A number from hexadecimal digits, which may have no sign.  With a sign they are taken for decimal
    digits, and refused as a whole number, or as a number with an exponent if there is the mark of one. -/
def hexNumber (signed : Bool) (digits : List Char) : Except Fault Amount :=
  let value := unitValue digits
  if signed then .error (if digits.any (fun c => c = 'e' || c = 'E') then .number else .wholeNumber)
  else if h : value < 0x100000000 then
    .ok (.whole value ⟨by omega, by omega⟩)
  else .error .hexadecimal

/-- The value of a number. -/
def amount (numeral : Numeral) : Except Fault Amount :=
  let negative := numeral.sign == some .minus
  match numeral.body with
  | .hexadecimal digits => hexNumber numeral.sign.isSome digits
  | .infinity =>
    if numeral.sign == some .plus then .error .wholeNumber else .ok (.float (.infinite negative))
  | .notANumber => if numeral.sign == some .plus then .error .wholeNumber else .ok (.float .nan)
  | .decimal whole none none =>
    wholeNumber (if negative then -(digitsValue whole : Int) else digitsValue whole)
  | .decimal whole fraction power =>
    match (exactDecimal whole fraction power).toBinary64 negative with
    | .finite sign magnitude => .ok (.float (.finite sign magnitude))
    | _ => .error .numberTooLarge

/-- The code point for the bits of two halves: bit 16 is set in them.  Where it is among them already, the
    character comes `0x10000` code points before the one that UTF-16 means. -/
def join (bits : Nat) : Nat := firstJoined ||| bits

/-- What the parts of a document mean. -/
def dialect : Dialect where
  text pieces := (piecesText join pieces).map String.ofList
  amount := amount
  depthLimit := none
  surplusAllowed := true
  checksUnread := true
  -- the mark stands for the sentence of the parser package, which is not written out here
  wording := ⟨"<json5 syntax error>", "unit value", Layout.pointed⟩

end Relaxed

/-- JSON5. -/
def json5 : Format where
  lexeme := Relaxed.lexeme
  grammar := Relaxed.grammar
  dialect := Relaxed.dialect
  wholeFirst := true

end Document

end RollConditions
