/-
  From tokens to a document.

  A text is cut into tokens by rules that differ from one kind of document to another; how tokens make
  up a document differs only in the points that `Grammar` names.  The tokens are taken one by one.  What
  is open around the next token is a stack of frames, each with the values that were read in it; when a
  token does not fit, the frames are folded up into a node that is broken at this place.
-/
import RollConditions.Document.Node

namespace RollConditions

namespace Document

/-- The smallest parts of a text, blanks and comments left out. -/
inductive Token where
  | openList
  | closeList
  | openObject
  | closeObject
  | comma
  | colon
  | number (numeral : Numeral)
  /-- A quoted text. -/
  | text (pieces : List Piece)
  /-- A text without quotes. -/
  | word (pieces : List Piece)
  /-- Characters that are no token. -/
  | fault
deriving DecidableEq

/-- The points in which kinds of documents differ. -/
structure Grammar where
  /-- Whether a comma may follow the last item of a list or object. -/
  trailingComma : Bool
  /-- Whether the key of a field may lack its quotes. -/
  bareKey : Bool
  /-- The words that are values. -/
  words : List (String × Node)

namespace Grammar

/-- The value that a word stands for. -/
def word? (grammar : Grammar) (pieces : List Piece) : Option Node :=
  (grammar.words.find? (fun entry => entry.1.toList.map Piece.plain == pieces)).map (·.2)

end Grammar

/-! ## The stack -/

/-- A list or object in which a value is being read. -/
inductive Frame where
  /-- A list, with the items before the value, last first. -/
  | items (before : List Node)
  /-- An object, with the fields before the value, last first, and the key of the value. -/
  | fields (before : List (List Piece × Node)) (key : List Piece)

/-- What was read, and what is due next. -/
inductive Progress where
  /-- A value, or the end of the list that was just opened or continued if it may close. -/
  | valueDue (around : List Frame) (mayClose : Bool)
  /-- A comma or the end of a list. -/
  | afterItem (items : List Node) (around : List Frame)
  /-- A key, or the end of the object that was just opened or continued if it may close. -/
  | keyDue (fields : List (List Piece × Node)) (around : List Frame) (mayClose : Bool)
  /-- The colon after a key. -/
  | colonDue (fields : List (List Piece × Node)) (key : List Piece) (around : List Frame)
  /-- A comma or the end of an object. -/
  | afterField (fields : List (List Piece × Node)) (around : List Frame)
  /-- Nothing: the document is complete, or broken; it is clean if it is complete and the text ends. -/
  | done (root : Node) (clean : Bool)

namespace Progress

/-- A complete value inside the frames around it. -/
def put (value : Node) : List Frame → Progress
  | [] => done value true
  | .items before :: around => afterItem (value :: before) around
  | .fields before key :: around => afterField ((key, value) :: before) around

/-- The document with a value that is not complete, inside frames that are never closed. -/
def foldUp (value : Node) : List Frame → Node
  | [] => value
  | .items before :: around => foldUp (.list (value :: before).reverse false) around
  | .fields before key :: around => foldUp (.object ((key, value) :: before).reverse false) around

/-- The document if the text breaks off here. -/
def root : Progress → Node
  | valueDue around _ => foldUp .broken around
  | afterItem items around => foldUp (.list items.reverse false) around
  | keyDue fields around _ => foldUp (.object fields.reverse false) around
  | colonDue fields key around => foldUp (.object ((key, .broken) :: fields).reverse false) around
  | afterField fields around => foldUp (.object fields.reverse false) around
  | done root _ => root

/-- Whether the document is complete and nothing came after it. -/
def isClean : Progress → Bool
  | done _ clean => clean
  | _ => false

/-- The text goes on with something that does not fit. -/
def stop (progress : Progress) : Progress := done progress.root false

/-- One more token where a value is due. -/
def takeValue (grammar : Grammar) (around : List Frame) (mayClose : Bool) : Token → Progress
  | .openList => valueDue (.items [] :: around) true
  | .openObject => keyDue [] around true
  | .number numeral => put (.number numeral) around
  | .text pieces => put (.text pieces) around
  | .word pieces =>
    match grammar.word? pieces with
    | some value => put value around
    | none => stop (valueDue around mayClose)
  | .closeList =>
    match mayClose, around with
    | true, .items before :: outer => put (.list before.reverse true) outer
    | _, _ => stop (valueDue around mayClose)
  | _ => stop (valueDue around mayClose)

/-- One more token. -/
def take (grammar : Grammar) (progress : Progress) (token : Token) : Progress :=
  match progress, token with
  | valueDue around mayClose, token => takeValue grammar around mayClose token
  | afterItem items around, .comma => valueDue (.items items :: around) grammar.trailingComma
  | afterItem items around, .closeList => put (.list items.reverse true) around
  | keyDue fields around _, .text key => colonDue fields key around
  | keyDue fields around mayClose, .word key =>
    if grammar.bareKey then colonDue fields key around else stop (keyDue fields around mayClose)
  | keyDue fields around true, .closeObject => put (.object fields.reverse true) around
  | colonDue fields key around, .colon => valueDue (.fields fields key :: around) false
  | afterField fields around, .comma => keyDue fields around grammar.trailingComma
  | afterField fields around, .closeObject => put (.object fields.reverse true) around
  | other, _ => stop other

end Progress

/-! ## Whole documents -/

/-- A document, and whether nothing is wrong with the text. -/
structure Source where
  /-- The document, broken where a fault comes before its end. -/
  root : Node
  /-- The document is complete, and the text ends with it. -/
  clean : Bool

/-- The document that tokens make up. -/
def ofTokens (grammar : Grammar) (tokens : List Token) : Source :=
  let progress := tokens.foldl (Progress.take grammar) (.valueDue [] false)
  ⟨progress.root, progress.isClean⟩

/-! ## Cutting a text into tokens -/

/-- What stands at the beginning of a text that is not empty, with the number of its characters after
    the first one. -/
inductive Lexeme where
  /-- Blanks or a comment. -/
  | blank (more : Nat)
  | token (token : Token) (more : Nat)
  /-- No token; the text cannot be cut any further. -/
  | fault

/-- The tokens of a text.  The number says how many characters still belong to the token before. -/
def tokensFrom (lexeme : Char → List Char → Lexeme) : Nat → List Char → List Token
  | _, [] => []
  | more + 1, _ :: rest => tokensFrom lexeme more rest
  | 0, first :: rest =>
    match lexeme first rest with
    | .blank more => tokensFrom lexeme more rest
    | .token token more => token :: tokensFrom lexeme more rest
    | .fault => [.fault]

end Document

end RollConditions
