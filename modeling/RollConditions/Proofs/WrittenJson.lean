/-
  Every printed value is one line, and is read back as one document.

  `Json.written` is the document that the characters of a value write: a field for each field, an item for
  each item, and in a text one piece for each character, escaped or not.  The reader takes tokens one by one
  and keeps what is open around the next one; `reading` is where the tokens of a text lead it.  Where a value
  is due, the characters of a value lead it to that value, put in its place, and to what comes after them.
  That is shown by induction over values, with the items and fields read so far as they lie on the stack.
-/
import RollConditions.Document.Strict
import RollConditions.Proofs.WrittenNumber

namespace RollConditions

open Document

namespace Json

/-! ## The document that a value writes -/

/-- The piece that a printed character is read as. -/
def piece (c : Char) : Piece :=
  if ' ' ≤ c then .plain c
  else if c = '\x08' then .character c ['b']
  else if c = '\t' then .character c ['t']
  else if c = '\n' then .character c ['n']
  else if c = '\x0c' then .character c ['f']
  else if c = '\r' then .character c ['r']
  else .unit ['0', '0', hexDigit (c.toNat / 16), hexDigit (c.toNat % 16)]

/-- The pieces that a printed text is read as. -/
def pieces (text : String) : List Piece := text.toList.map piece

/-- The document that a number writes.  The last case does not arise: `Number.exists_written`. -/
def Number.written (number : Number) : Node :=
  match Strict.numeral? number.characters with
  | some (numeral, _) => .number numeral
  | none => .broken

mutual

/-- The document that a value writes. -/
def written : Json → Node
  | .null => .null
  | .bool value => .bool value
  | .number value => value.written
  | .text value => .text (pieces value)
  | .list items => .list (writtenItems items) true
  | .object fields => .object (writtenFields fields) true

/-- The documents that the items of a list write. -/
def writtenItems : List Json → List Node
  | [] => []
  | item :: rest => written item :: writtenItems rest

/-- The keys and documents that the fields of an object write. -/
def writtenFields : List (String × Json) → List (List Piece × Node)
  | [] => []
  | (name, value) :: rest => (pieces name, written value) :: writtenFields rest

end

/-- A number writes its parts. -/
theorem Number.written_eq {number : Number} {parts : NumberParts}
    (h : number.characters = parts.characters) : number.written = .number parts.numeral := by
  have hend : EndsNumber [] := by simp [EndsNumber]
  have hnumeral := numeral?_characters parts hend
  rw [List.append_nil] at hnumeral
  rw [written, h, hnumeral]

/-- No number is written as something else than a number. -/
theorem Number.exists_written (number : Number) : ∃ numeral, number.written = .number numeral :=
  (exists_parts number).imp' NumberParts.numeral (fun _ => written_eq)

/-! ## Texts

    The printer escapes the quote, the backslash and what stands below the blank.  The reader takes the
    three forms that come of it: a character for itself, a backslash and a letter, and four digits. -/

/-- Below the blank there are thirty-two characters. -/
theorem toNat_lt_of_not_le {c : Char} (h : ¬ ' ' ≤ c) : c.toNat < 32 :=
  Nat.lt_of_not_le (fun hle => h hle)

/-- The four digits of a character below the blank are those of its number. -/
theorem hexValue?_control :
    ∀ n < 32, hexValue? ['0', '0', hexDigit (n / 16), hexDigit (n % 16)] = some n := by
  decide

/-- An escaped character is read as its piece. -/
theorem quoted?_escaped (c : Char) (text : List Char) :
    Strict.quoted? (escaped c ++ text)
      = (Strict.quoted? text).map (fun (pieces, count) =>
          (piece c :: pieces, count + (escaped c).length)) := by
  -- the two escaped characters above the blank are read back by their own rules
  by_cases hquote : c = '"'
  · subst hquote
    rfl
  by_cases hbackslash : c = '\\'
  · subst hbackslash
    rfl
  by_cases hblank : ' ' ≤ c
  · have hnot : ¬ c < ' ' := Char.not_lt.mpr hblank
    simp [escaped, piece, hquote, hbackslash, hblank, hnot, Strict.quoted?]
  -- below the blank five characters have a letter, and the others four hexadecimal digits
  rw [escaped, if_neg hquote, if_neg hbackslash, if_neg hblank, piece, if_neg hblank]
  by_cases hb : c = '\x08'
  · subst hb
    rfl
  by_cases ht : c = '\t'
  · subst ht
    rfl
  by_cases hn : c = '\n'
  · subst hn
    rfl
  by_cases hf : c = '\x0c'
  · subst hf
    rfl
  by_cases hr : c = '\r'
  · subst hr
    rfl
  have hvalue := hexValue?_control c.toNat (toNat_lt_of_not_le hblank)
  simp [hb, ht, hn, hf, hr, Strict.quoted?, hvalue]

/-- An escaped text and its closing quote are read as its pieces. -/
theorem quoted?_flatMap_escaped (chars rest : List Char) :
    Strict.quoted? (chars.flatMap escaped ++ '"' :: rest)
      = some (chars.map piece, (chars.flatMap escaped).length + 1) := by
  induction chars with
  | nil => rfl
  | cons c others ih =>
    rw [List.flatMap_cons, List.append_assoc, quoted?_escaped, ih]
    simp [Nat.add_comm, Nat.add_left_comm]

/-- The unit of a character below the blank is that character, whatever comes after it. -/
theorem piecesText_control {n : Nat} (h : n < 32) (rest : List Piece) :
    piecesText utf16Join (.unit ['0', '0', hexDigit (n / 16), hexDigit (n % 16)] :: rest)
      = (piecesText utf16Join rest).map (Char.ofNat n :: ·) := by
  have hvalue : unitValue ['0', '0', hexDigit (n / 16), hexDigit (n % 16)] = n := by
    rw [unitValue, hexValue?_control n h]
    rfl
  have htrail : isTrail n = false := by
    simp [isTrail]
    omega
  have hlead : isLead n = false := by
    simp [isLead]
    omega
  -- the reader looks at the next piece only after half of a character, but has a rule for each kind of it
  rcases rest with _ | ⟨value, written⟩ | ⟨digits⟩ <;>
    simp [piecesText, hvalue, htrail, hlead]

/-- The piece of a printed character stands for that character, at the front of any other pieces. -/
theorem piecesText_piece (c : Char) (rest : List Piece) :
    piecesText utf16Join (piece c :: rest) = (piecesText utf16Join rest).map (c :: ·) := by
  by_cases hblank : ' ' ≤ c
  · rw [piece, if_pos hblank]
    rfl
  have hcontrol := piecesText_control (toNat_lt_of_not_le hblank) rest
  rw [Char.ofNat_toNat] at hcontrol
  rw [piece, if_neg hblank]
  -- the five letters stand for their characters by definition, and only the digits need their value
  repeat' split
  all_goals first | rfl | exact hcontrol

/-- The pieces of a printed text make up the text. -/
theorem text_pieces (text : String) : Strict.text (pieces text) = .ok text := by
  have hchars : ∀ chars : List Char, piecesText utf16Join (chars.map piece) = .ok chars := by
    intro chars
    induction chars with
    | nil => rfl
    | cons c others ih =>
      rw [List.map_cons, piecesText_piece, ih]
      rfl
  rw [Strict.text, pieces, hchars]
  exact congrArg Except.ok String.ofList_toList

end Json

namespace Document

/-! ## Where the tokens of a text lead

    A token covers one character and some more.  The splitter walks over all of them and counts down how
    many are still covered, so that a token is taken in one step of `reading`, and its text is behind it. -/

/-- Where the tokens of a text lead from a state of reading. -/
def reading (progress : Progress) (text : List Char) : Progress :=
  (tokensFrom Strict.lexeme 0 text).foldl (Progress.take Strict.grammar) progress

/-- The characters that a token still covers give no tokens of their own. -/
theorem tokensFrom_length_append (lexeme : Char → List Char → Lexeme) (more rest : List Char) :
    tokensFrom lexeme more.length (more ++ rest) = tokensFrom lexeme 0 rest := by
  induction more with
  | nil => rfl
  | cons c others ih => exact ih

/-- One token is taken, with all its characters. -/
theorem reading_token (progress : Progress) (first : Char) (more : List Char) (token : Token)
    {rest : List Char} (h : Strict.lexeme first (more ++ rest) = .token token more.length) :
    reading progress (first :: (more ++ rest)) = reading (progress.take Strict.grammar token) rest := by
  rw [reading, tokensFrom, h]
  dsimp only
  rw [tokensFrom_length_append]
  rfl

/-- A mark is a token of one character. -/
theorem reading_mark (progress : Progress) (mark : Char) (token : Token) {rest : List Char}
    (h : Strict.lexeme mark rest = .token token 0) :
    reading progress (mark :: rest) = reading (progress.take Strict.grammar token) rest :=
  reading_token progress mark [] token h

/-- A printed text is one token. -/
theorem reading_quoted (progress : Progress) (text : String) (rest : List Char) :
    reading progress (Json.quoted text ++ rest)
      = reading (progress.take Strict.grammar (.text (Json.pieces text))) rest := by
  have hquoted := Json.quoted?_flatMap_escaped text.toList rest
  refine reading_token progress '"' (text.toList.flatMap Json.escaped ++ ['"'])
    (.text (Json.pieces text)) ?_
  rw [List.append_assoc, List.singleton_append, List.length_append]
  simp only [Strict.lexeme, hquoted]
  rfl

/-- A sign or a digit begins a number, and nothing else: no other token has such a first character. -/
theorem lexeme_number {first : Char} (h : first = '-' ∨ first.isDigit = true) (rest : List Char) :
    Strict.lexeme first rest = (match Strict.numeral? (first :: rest) with
      | some (numeral, after) => .token (.number numeral) (rest.length - after.length)
      | none => .fault) := by
  unfold Strict.lexeme
  split <;> first | rfl | (exact absurd h (by decide))

/-- A printed number is one token, if what follows does not go on with it. -/
theorem reading_number (number : Json.Number) {around : List Frame} {mayClose : Bool} {rest : List Char}
    (hrest : EndsNumber rest) :
    reading (.valueDue around mayClose) (number.characters ++ rest)
      = reading (Progress.put number.written around) rest := by
  obtain ⟨parts, hparts⟩ := exists_parts number
  have hwritten := Json.Number.written_eq hparts
  -- the first character decides the kind of token, and the others are how far the number goes
  obtain ⟨first, more, hfirst, hkind⟩ := parts.exists_first
  have hnumeral := numeral?_characters parts hrest
  rw [hfirst] at hnumeral
  rw [hparts, hfirst, hwritten, List.cons_append]
  have hlexeme : Strict.lexeme first (more ++ rest) = .token (.number parts.numeral) more.length := by
    rw [lexeme_number hkind, ← List.cons_append, hnumeral]
    simp
  exact reading_token _ first more _ hlexeme

/-! ## Values

    A number ends only at what follows it, so every value is read in front of a text that ends numbers.
    Inside a list or an object that text begins with a comma or with the closing mark. -/

/-- A number ends at a mark that is neither a digit, a point nor the sign of a power of ten. -/
theorem endsNumber_cons {mark : Char} (rest : List Char)
    (h : mark.isDigit = false ∧ mark ≠ '.' ∧ mark ≠ 'e' ∧ mark ≠ 'E') :
    EndsNumber (mark :: rest) := by
  rintro c ⟨⟩
  exact h

/-- Behind an item stands a comma or the end of its list. -/
theorem endsNumber_itemCharacters (items : List Json) (rest : List Char) :
    EndsNumber (Json.itemCharacters items ++ ']' :: rest) := by
  cases items <;> exact endsNumber_cons _ (by decide)

/-- Behind a field stands a comma or the end of its object. -/
theorem endsNumber_fieldCharacters (fields : List (String × Json)) (rest : List Char) :
    EndsNumber (Json.fieldCharacters fields ++ '}' :: rest) := by
  cases fields <;> exact endsNumber_cons _ (by decide)

/-- A value is read as what it writes, wherever a value is due. -/
def ReadsBack (value : Json) : Prop :=
  ∀ {around : List Frame} {mayClose : Bool} {rest : List Char}, EndsNumber rest →
    reading (.valueDue around mayClose) (value.characters ++ rest)
      = reading (Progress.put value.written around) rest

/-- The items of a list are put behind those that were read before. -/
theorem reading_items {items : List Json} (h : ∀ item ∈ items, ReadsBack item) (before : List Node)
    (around : List Frame) (rest : List Char) :
    reading (.afterItem before around) (Json.itemCharacters items ++ ']' :: rest)
      = reading (Progress.put (.list (before.reverse ++ Json.writtenItems items) true) around) rest := by
  -- `before` grows by one item a step: it holds them last first, as the stack does
  induction items generalizing before with
  | nil =>
    rw [Json.writtenItems, List.append_nil]
    exact reading_mark _ ']' .closeList rfl
  | cons item others ih =>
    obtain ⟨hitem, hothers⟩ := List.forall_mem_cons.mp h
    calc reading (.afterItem before around) (Json.itemCharacters (item :: others) ++ ']' :: rest)
      _ = reading (.valueDue (.items before :: around) false)
            (item.characters ++ (Json.itemCharacters others ++ ']' :: rest)) := by
          rw [Json.itemCharacters, List.cons_append, List.append_assoc]
          exact reading_mark _ ',' .comma rfl
      _ = reading (.afterItem (item.written :: before) around)
            (Json.itemCharacters others ++ ']' :: rest) :=
          hitem (endsNumber_itemCharacters others rest)
      _ = _ := by
          rw [ih hothers, Json.writtenItems, List.reverse_cons, List.append_assoc,
            List.singleton_append]

/-- One field of an object, where a key is due. -/
theorem reading_field {value : Json} (h : ReadsBack value) (name : String)
    (before : List (List Piece × Node)) (around : List Frame) (mayClose : Bool) {rest : List Char}
    (hrest : EndsNumber rest) :
    reading (.keyDue before around mayClose) (Json.quoted name ++ ':' :: (value.characters ++ rest))
      = reading (.afterField ((Json.pieces name, value.written) :: before) around) rest :=
  calc reading (.keyDue before around mayClose) (Json.quoted name ++ ':' :: (value.characters ++ rest))
    _ = reading (.colonDue before (Json.pieces name) around) (':' :: (value.characters ++ rest)) :=
        reading_quoted _ _ _
    _ = reading (.valueDue (.fields before (Json.pieces name) :: around) false)
          (value.characters ++ rest) := reading_mark _ ':' .colon rfl
    _ = _ := h hrest

/-- The fields of an object are put behind those that were read before. -/
theorem reading_fields {fields : List (String × Json)} (h : ∀ field ∈ fields, ReadsBack field.2)
    (before : List (List Piece × Node)) (around : List Frame) (rest : List Char) :
    reading (.afterField before around) (Json.fieldCharacters fields ++ '}' :: rest)
      = reading (Progress.put (.object (before.reverse ++ Json.writtenFields fields) true) around)
          rest := by
  induction fields generalizing before with
  | nil =>
    rw [Json.writtenFields, List.append_nil]
    exact reading_mark _ '}' .closeObject rfl
  | cons field others ih =>
    obtain ⟨name, value⟩ := field
    obtain ⟨hvalue, hothers⟩ := List.forall_mem_cons.mp h
    calc reading (.afterField before around) (Json.fieldCharacters ((name, value) :: others) ++ '}' :: rest)
      _ = reading (.keyDue before around false)
            (Json.quoted name ++
              ':' :: (value.characters ++ (Json.fieldCharacters others ++ '}' :: rest))) := by
          rw [Json.fieldCharacters, List.cons_append, List.append_assoc, List.cons_append, List.append_assoc]
          exact reading_mark _ ',' .comma rfl
      _ = reading (.afterField ((Json.pieces name, value.written) :: before) around)
            (Json.fieldCharacters others ++ '}' :: rest) :=
          reading_field hvalue name before around false (endsNumber_fieldCharacters others rest)
      _ = _ := by
          rw [ih hothers, Json.writtenFields, List.reverse_cons, List.append_assoc,
            List.singleton_append]

/-- Every value is read as what it writes. -/
theorem readsBack (value : Json) : ReadsBack value := by
  intro around mayClose rest hrest
  -- what is open around a value and what follows it change from a value to its parts
  induction value generalizing around mayClose rest with
  | null => exact reading_token _ 'n' ['u', 'l', 'l'] (.word (['n', 'u', 'l', 'l'].map .plain)) rfl
  | bool value =>
    cases value with
    | false =>
      exact reading_token _ 'f' ['a', 'l', 's', 'e'] (.word (['f', 'a', 'l', 's', 'e'].map .plain)) rfl
    | true => exact reading_token _ 't' ['r', 'u', 'e'] (.word (['t', 'r', 'u', 'e'].map .plain)) rfl
  | number value => exact reading_number value hrest
  | text value => exact reading_quoted _ value rest
  | list items ih =>
    cases items with
    | nil =>
      -- the list closes where its first item is due
      calc reading (.valueDue around mayClose) ('[' :: ']' :: rest)
        _ = reading (.valueDue (.items [] :: around) true) (']' :: rest) :=
            reading_mark _ '[' .openList rfl
        _ = _ := reading_mark _ ']' .closeList rfl
    | cons item others =>
      -- the first item has no comma in front, and `reading_items` takes the others
      obtain ⟨hitem, hothers⟩ := List.forall_mem_cons.mp ih
      calc reading (.valueDue around mayClose) ((Json.list (item :: others)).characters ++ rest)
        _ = reading (.valueDue (.items [] :: around) true)
              (item.characters ++ (Json.itemCharacters others ++ ']' :: rest)) := by
            rw [Json.characters, List.cons_append, List.append_assoc, List.append_assoc]
            exact reading_mark _ '[' .openList rfl
        _ = reading (.afterItem [item.written] around) (Json.itemCharacters others ++ ']' :: rest) :=
            hitem (endsNumber_itemCharacters others rest)
        _ = _ := reading_items (fun item hmem => hothers item hmem) [item.written] around rest
  | object fields ih =>
    cases fields with
    | nil =>
      -- the object closes where its first key is due
      calc reading (.valueDue around mayClose) ('{' :: '}' :: rest)
        _ = reading (.keyDue [] around true) ('}' :: rest) := reading_mark _ '{' .openObject rfl
        _ = _ := reading_mark _ '}' .closeObject rfl
    | cons field others =>
      -- likewise the first field, by the lemma of one field
      obtain ⟨name, value⟩ := field
      obtain ⟨hvalue, hothers⟩ := List.forall_mem_cons.mp ih
      calc reading (.valueDue around mayClose) ((Json.object ((name, value) :: others)).characters ++ rest)
        _ = reading (.keyDue [] around true) (Json.quoted name ++
              ':' :: (value.characters ++ (Json.fieldCharacters others ++ '}' :: rest))) := by
            rw [Json.characters, List.cons_append, List.append_assoc, List.cons_append, List.append_assoc,
              List.append_assoc]
            exact reading_mark _ '{' .openObject rfl
        _ = reading (.afterField [(Json.pieces name, value.written)] around)
              (Json.fieldCharacters others ++ '}' :: rest) :=
            reading_field hvalue name [] around true (endsNumber_fieldCharacters others rest)
        _ = _ := reading_fields (fun field hmem => hothers field hmem) _ around rest

/-- A printed value is a complete document, the one that the value writes, if blanks follow it or nothing. -/
theorem source_compact_append (value : Json) {blanks : String} (hend : EndsNumber blanks.toList)
    (hblanks : reading (.done value.written true) blanks.toList = .done value.written true) :
    strictJson.source (value.compact ++ blanks) = ⟨value.written, true⟩ := by
  have hreading : reading (.valueDue [] false) (value.characters ++ blanks.toList)
      = .done value.written true :=
    (readsBack value hend).trans hblanks
  have hchars : (value.compact ++ blanks).toList = value.characters ++ blanks.toList := by
    rw [String.toList_append, Json.compact, String.toList_ofList]
  rw [Format.source, hchars]
  show Source.mk (reading _ _).root (reading _ _).isClean = _
  rw [hreading]
  rfl

/-- A printed line is a complete document, the one that its value writes. -/
theorem source_compact_line (value : Json) :
    strictJson.source (value.compact ++ "\n") = ⟨value.written, true⟩ :=
  -- the end of the line is a blank after the document
  source_compact_append value (endsNumber_cons [] (by decide)) rfl

/-- A printed value with nothing behind it is a complete document too. -/
theorem source_compact (value : Json) : strictJson.source value.compact = ⟨value.written, true⟩ := by
  have hsource : strictJson.source (value.compact ++ "") = ⟨value.written, true⟩ :=
    source_compact_append value (by simp [EndsNumber]) rfl
  rwa [String.append_empty] at hsource

end Document

namespace Json

/-! ## One line

    A line ends at characters below the blank, and of those the printer writes none: it escapes them in
    texts and keys, and nothing else that it writes comes from the value. -/

/-- Characters of one line, all of them from the blank on. -/
def OneLine (chars : List Char) : Prop := ∀ c ∈ chars, ' ' ≤ c

/-- One more character in front keeps the line, if it is not below the blank. -/
theorem oneLine_cons {c : Char} {chars : List Char} (hc : ' ' ≤ c) (h : OneLine chars) :
    OneLine (c :: chars) :=
  List.forall_mem_cons.mpr ⟨hc, h⟩

/-- Two parts of a line make up one line. -/
theorem OneLine.append {chars others : List Char} (h : OneLine chars) (hothers : OneLine others) :
    OneLine (chars ++ others) :=
  List.forall_mem_append.mpr ⟨h, hothers⟩

/-- Digits do not end a line. -/
theorem oneLine_of_isDigits {digits : List Char} (h : IsDigits digits) : OneLine digits := by
  intro c hc
  have hdigit : '0'.val ≤ c.val ∧ c.val ≤ '9'.val := by
    simpa [Char.isDigit] using h.isDigit c hc
  exact Char.le_trans (by decide) (show '0' ≤ c from hdigit.1)

/-- Nor does a sign, or its absence. -/
theorem oneLine_signCharacters (sign : Option Sign) : OneLine (signCharacters sign) := by
  rcases sign with _ | _ | _ <;> simp [OneLine, signCharacters]

/-- A number is one line, each of its parts being one. -/
theorem Number.oneLine_characters (number : Number) : OneLine number.characters := by
  obtain ⟨parts, hparts⟩ := exists_parts number
  have hfraction : OneLine (fractionCharacters parts.fraction) := by
    cases heq : parts.fraction with
    | none => exact fun _ h => absurd h List.not_mem_nil
    | some digits => exact oneLine_cons (by decide) (oneLine_of_isDigits (parts.isFraction digits heq))
  have hpower : OneLine (powerCharacters parts.power) := by
    cases heq : parts.power with
    | none => exact fun _ h => absurd h List.not_mem_nil
    | some exponent =>
      exact oneLine_cons (by decide) ((oneLine_signCharacters exponent.sign).append
        (oneLine_of_isDigits (parts.isPower exponent heq)))
  rw [hparts]
  exact (oneLine_signCharacters parts.sign).append
    ((oneLine_of_isDigits parts.isWhole.isDigits).append (hfraction.append hpower))

/-- The sixteen digits of an escaped character are not below the blank. -/
theorem blank_le_hexDigit : ∀ n < 16, ' ' ≤ hexDigit n := by decide

/-- An escaped character is shown on one line, whichever character it is. -/
theorem oneLine_escaped (c : Char) : OneLine (escaped c) := by
  by_cases hblank : ' ' ≤ c
  · unfold escaped
    repeat' split
    all_goals simp_all [OneLine]
  · -- its number has two digits in base sixteen
    have hcontrol := toNat_lt_of_not_le hblank
    have hhigh := blank_le_hexDigit (c.toNat / 16) (by omega)
    have hlow := blank_le_hexDigit (c.toNat % 16) (by omega)
    unfold escaped
    repeat' split
    all_goals simp_all [OneLine]

/-- A text in its quotes is one line. -/
theorem oneLine_quoted (text : String) : OneLine (quoted text) := by
  have hescaped : OneLine (text.toList.flatMap escaped) := by
    intro shown hshown
    obtain ⟨c, -, hc⟩ := List.mem_flatMap.mp hshown
    exact oneLine_escaped c shown hc
  exact oneLine_cons (by decide) (hescaped.append (oneLine_cons (by decide) (by simp [OneLine])))

/-- The items of a list stay on the line if each of them does. -/
theorem oneLine_itemCharacters {items : List Json} (h : ∀ item ∈ items, OneLine item.characters) :
    OneLine (itemCharacters items) := by
  induction items with
  | nil => simp [OneLine, itemCharacters]
  | cons item others ih =>
    obtain ⟨hitem, hothers⟩ := List.forall_mem_cons.mp h
    rw [itemCharacters]
    exact oneLine_cons (by decide) (hitem.append (ih hothers))

/-- So do the fields of an object: their keys are texts. -/
theorem oneLine_fieldCharacters {fields : List (String × Json)}
    (h : ∀ field ∈ fields, OneLine field.2.characters) : OneLine (fieldCharacters fields) := by
  induction fields with
  | nil => simp [OneLine, fieldCharacters]
  | cons field others ih =>
    obtain ⟨name, value⟩ := field
    obtain ⟨hvalue, hothers⟩ := List.forall_mem_cons.mp h
    rw [fieldCharacters]
    exact oneLine_cons (by decide)
      ((oneLine_quoted name).append (oneLine_cons (by decide) (hvalue.append (ih hothers))))

/-- A printed value is one line. -/
theorem oneLine_characters (value : Json) : OneLine value.characters := by
  have hclose : ∀ mark : Char, ' ' ≤ mark → OneLine [mark] := fun mark h => by simpa [OneLine] using h
  induction value with
  | null => simp [OneLine, characters]
  | bool value => cases value <;> simp [OneLine, characters]
  | number value => exact value.oneLine_characters
  | text value => exact oneLine_quoted value
  | list items ih =>
    cases items with
    | nil => simp [OneLine, characters]
    | cons item others =>
      obtain ⟨hitem, hothers⟩ := List.forall_mem_cons.mp ih
      rw [characters]
      exact oneLine_cons (by decide)
        ((hitem.append (oneLine_itemCharacters hothers)).append (hclose ']' (by decide)))
  | object fields ih =>
    cases fields with
    | nil => simp [OneLine, characters]
    | cons field others =>
      obtain ⟨name, value⟩ := field
      obtain ⟨hvalue, hothers⟩ := List.forall_mem_cons.mp ih
      rw [characters]
      exact oneLine_cons (by decide) ((oneLine_quoted name).append
        (oneLine_cons (by decide)
          ((hvalue.append (oneLine_fieldCharacters hothers)).append (hclose '}' (by decide)))))

end Json

end RollConditions
