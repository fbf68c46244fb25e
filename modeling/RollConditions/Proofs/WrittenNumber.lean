/-
  Printed numbers are numbers of a strict document.

  A number of strict JSON is a sign, digits, perhaps a point with digits, perhaps a mark with a power of ten
  (`NumberParts`).  The reader of numbers takes as many characters as it can, so it finds exactly these parts
  if what follows does not go on with the number (`EndsNumber`).

  Whole numbers are printed as digits, the others in four layouts.  What could go wrong is a zero before other
  digits: the only decimal whose digits begin with a zero is zero itself, and that one counts no power of ten
  (`Magnitude.exponent_shortest`), so nothing is put behind its zero but a point.
-/
import RollConditions.Document.Strict
import RollConditions.Json.Printer

namespace RollConditions

/-! ## The digits of a number -/

/-- Only zero begins with a zero. -/
theorem head?_toDigits_ne_zero {n : Nat} (h : n ≠ 0) : (Nat.toDigits 10 n).head? ≠ some '0' := by
  induction n using Nat.strongRecOn with
  | _ n ih =>
    rw [Nat.toDigits_eq_if (by decide)]
    split
    · rename_i hlt
      simpa [Nat.digitChar_eq_zero] using h
    · rename_i hlt
      -- the leading digit is that of the number without its last digit
      rw [List.head?_append, Option.or_of_isSome (List.isSome_head?.mpr Nat.toDigits_ne_nil)]
      exact ih (n / 10) (by omega) (by omega)

namespace Decimal

/-- Not all digits of a number above zero are zeros, so some are left without those at the end. -/
theorem digits_normal_ne_zero {d : Decimal} (h : d.digits ≠ 0) : d.normal.digits ≠ 0 := by
  have hnormal : d.normal.digits = d.digits / Nat.pow 10
      ((Nat.toDigits 10 d.digits).reverse.takeWhile (· = '0')).length := by
    rw [normal, if_neg h]
  rw [hnormal]
  generalize hzeros : (Nat.toDigits 10 d.digits).reverse.takeWhile (· = '0') = zeros
  intro hzero
  have hlt : d.digits < 10 ^ zeros.length :=
    (Nat.div_eq_zero_iff.mp hzero).resolve_left (Nat.ne_of_gt (Nat.pow_pos (by decide)))
  have hpos : 0 < zeros.length := by
    rcases Nat.eq_zero_or_pos zeros.length with hnil | hpos
    · rw [hnil] at hlt
      omega
    · exact hpos
  -- then every digit is one of the zeros at the end, the leading one too
  have hlength := (Nat.length_toDigits_le_iff (by decide) hpos).mpr hlt
  have hall : zeros = (Nat.toDigits 10 d.digits).reverse :=
    (hzeros ▸ List.takeWhile_prefix _).eq_of_length_le (by simpa using hlength)
  have hleading : ∀ c ∈ (Nat.toDigits 10 d.digits).head?, c = '0' := by
    intro c hc
    have hmem : c ∈ zeros := by
      rw [hall]
      exact List.mem_reverse.mpr (List.mem_of_mem_head? hc)
    rw [← hzeros] at hmem
    exact of_decide_eq_true (List.all_eq_true.mp List.all_takeWhile c hmem)
  rw [List.head?_eq_some_head Nat.toDigits_ne_nil] at hleading
  refine head?_toDigits_ne_zero h ?_
  rw [List.head?_eq_some_head Nat.toDigits_ne_nil, hleading _ rfl]

/-- A decimal without zeros at the end counts a power of ten only if it is above zero. -/
theorem exponent_normal {d : Decimal} (h : d.normal.digits = 0) : d.normal.exponent = 0 := by
  by_cases hdigits : d.digits = 0
  · rw [normal, if_pos hdigits]
  · exact absurd h (digits_normal_ne_zero hdigits)

end Decimal

/-- The digits of zero count no power of ten. -/
theorem Magnitude.exponent_shortest {tie : TieRule} {m : Magnitude} (h : (m.shortest tie).digits = 0) :
    (m.shortest tie).exponent = 0 := by
  by_cases hunits : m.units = 0
  · rw [shortest, if_pos hunits]
  · rw [shortest, if_neg hunits] at h ⊢
    exact Decimal.exponent_normal h

namespace Document

/-! ## The parts of a number -/

/-- Decimal digits, at least one. -/
structure IsDigits (digits : List Char) : Prop where
  ne_nil : digits ≠ []
  isDigit : ∀ c ∈ digits, c.isDigit = true

/-- The digits before the point: a zero stands alone. -/
def IsWholePart (digits : List Char) : Prop :=
  digits = ['0'] ∨ (IsDigits digits ∧ digits.head? ≠ some '0')

/-- The parts that a number of strict JSON has. -/
structure NumberParts where
  negative : Bool
  whole : List Char
  fraction : Option (List Char)
  power : Option TenPower
  isWhole : IsWholePart whole
  isFraction : ∀ digits ∈ fraction, IsDigits digits
  isPower : ∀ exponent ∈ power, IsDigits exponent.digits

/-- What follows does not go on with a number. -/
def EndsNumber (rest : List Char) : Prop :=
  ∀ c ∈ rest.head?, c.isDigit = false ∧ c ≠ '.' ∧ c ≠ 'e' ∧ c ≠ 'E'

/-- The characters of a sign that may lack. -/
def signCharacters : Option Sign → List Char
  | none => []
  | some .plus => ['+']
  | some .minus => ['-']

/-- The characters of a fraction that may lack. -/
def fractionCharacters : Option (List Char) → List Char
  | none => []
  | some digits => '.' :: digits

/-- The characters of a power of ten that may lack. -/
def powerCharacters : Option TenPower → List Char
  | none => []
  | some exponent => 'e' :: (signCharacters exponent.sign ++ exponent.digits)

namespace NumberParts

/-- The sign of a number; only a minus is written. -/
def sign (parts : NumberParts) : Option Sign := if parts.negative then some .minus else none

/-- The characters of a number after its sign. -/
def unsigned (parts : NumberParts) : List Char :=
  parts.whole ++ (fractionCharacters parts.fraction ++ powerCharacters parts.power)

/-- The characters of a number. -/
def characters (parts : NumberParts) : List Char := signCharacters parts.sign ++ parts.unsigned

/-- The number as it is written. -/
def numeral (parts : NumberParts) : Numeral :=
  ⟨parts.sign, .decimal parts.whole parts.fraction parts.power⟩

end NumberParts

/-! ## Digits as parts

    The layouts cut the digits of a number in two and put zeros around them.  What comes of it is digits
    again; that no zero comes to stand before the others is to be shown for each layout. -/

/-- Some of the digits are digits, if there are any. -/
theorem IsDigits.of_subset {digits part : List Char} (h : IsDigits digits) (hne : part ≠ [])
    (hsubset : part ⊆ digits) : IsDigits part :=
  ⟨hne, fun c hc => h.isDigit c (hsubset hc)⟩

/-- Zeros may come before digits and after them. -/
theorem IsDigits.zeros_append {digits : List Char} (h : IsDigits digits) (count : Nat) :
    IsDigits (List.replicate count '0' ++ digits) ∧ IsDigits (digits ++ List.replicate count '0') := by
  have hzeros : ∀ c ∈ List.replicate count '0', c.isDigit = true := by
    intro c hc
    rw [List.eq_of_mem_replicate hc]
    decide
  exact ⟨⟨by simp [h.ne_nil], List.forall_mem_append.mpr ⟨hzeros, h.isDigit⟩⟩,
    ⟨by simp [h.ne_nil], List.forall_mem_append.mpr ⟨h.isDigit, hzeros⟩⟩⟩

/-- What may stand before the point is digits. -/
theorem IsWholePart.isDigits {digits : List Char} (h : IsWholePart digits) : IsDigits digits := by
  rcases h with rfl | ⟨hdigits, -⟩
  · exact ⟨by simp, by simp⟩
  · exact hdigits

/-- A natural number has digits. -/
theorem isDigits_toDigits (n : Nat) : IsDigits (Nat.toDigits 10 n) :=
  ⟨Nat.toDigits_ne_nil, fun _ => Nat.isDigit_of_mem_toDigits (by decide) (by decide)⟩

/-- The digits of a natural number may stand before the point. -/
theorem isWholePart_toDigits (n : Nat) : IsWholePart (Nat.toDigits 10 n) := by
  rcases Nat.eq_zero_or_pos n with rfl | hpos
  · exact Or.inl (Nat.toDigits_zero 10)
  · exact Or.inr ⟨isDigits_toDigits n, head?_toDigits_ne_zero (by omega)⟩

/-- Digits before the point may begin with those of a number above zero. -/
theorem isWholePart_of_head? {digits : List Char} (h : IsDigits digits) {n : Nat} (hn : n ≠ 0)
    (hhead : digits.head? = (Nat.toDigits 10 n).head?) : IsWholePart digits :=
  Or.inr ⟨h, hhead ▸ head?_toDigits_ne_zero hn⟩

/-- So may a single digit, whichever it is. -/
theorem isWholePart_singleton {digit : Char} (h : IsDigits [digit]) : IsWholePart [digit] := by
  by_cases hzero : digit = '0'
  · exact Or.inl (by rw [hzero])
  · exact Or.inr ⟨h, by simpa using hzero⟩

/-! ## Reading the parts

    Each reader takes as much as it can, so each part is read up to what may follow it: after the digits
    before the point a point, a power or the end, after those behind it a power or the end. -/

/-- Digits are cut off where they end. -/
theorem spanDigits_append {digits rest : List Char} (hdigits : ∀ c ∈ digits, c.isDigit = true)
    (hrest : ∀ c ∈ rest.head?, c.isDigit = false) : spanDigits (digits ++ rest) = (digits, rest) := by
  have hstop : rest.takeWhile Char.isDigit = [] ∧ rest.dropWhile Char.isDigit = rest := by
    cases rest with
    | nil => exact ⟨rfl, rfl⟩
    | cons c others =>
      have hc : c.isDigit = false := hrest c rfl
      simp [hc]
  rw [spanDigits, List.takeWhile_append_of_pos hdigits, List.dropWhile_append_of_pos hdigits, hstop.1,
    hstop.2, List.append_nil]

section parts

variable {rest : List Char}

/-- The digits before the point are read up to where they end. -/
theorem whole?_append {digits : List Char} (h : IsWholePart digits)
    (hrest : ∀ c ∈ rest.head?, c.isDigit = false) :
    Strict.whole? (digits ++ rest) = some (digits, rest) := by
  rw [Strict.whole?, spanDigits_append h.isDigits.isDigit hrest]
  rcases h with rfl | ⟨hdigits, hhead⟩
  · rfl
  · -- no digits, or a zero first, is what the reader looks for; these digits are neither
    split
    · rename_i hnil
      exact absurd (Prod.mk.inj hnil).1 hdigits.ne_nil
    · rename_i hzero
      obtain ⟨rfl, -⟩ := Prod.mk.inj hzero
      exact absurd rfl hhead
    · rename_i hzero
      obtain ⟨rfl, -⟩ := Prod.mk.inj hzero
      exact absurd rfl hhead
    · rename_i heq
      obtain ⟨rfl, rfl⟩ := Prod.mk.inj heq
      rfl

/-- A fraction is read if there is one, and none is read if what follows has no point. -/
theorem fraction?_append {fraction : Option (List Char)} (h : ∀ digits ∈ fraction, IsDigits digits)
    (hrest : ∀ c ∈ rest.head?, c.isDigit = false ∧ c ≠ '.') :
    Strict.fraction? (fractionCharacters fraction ++ rest) = some (fraction, rest) := by
  cases fraction with
  | none =>
    show Strict.fraction? rest = _
    rw [Strict.fraction?]
    intro others hpoint
    exact (hrest '.' (by rw [hpoint]; rfl)).2 rfl
  | some digits =>
    have hdigits := h digits rfl
    rw [fractionCharacters, List.cons_append, Strict.fraction?,
      spanDigits_append hdigits.isDigit (fun c hc => (hrest c hc).1)]
    split
    · rename_i hnil
      exact absurd (Prod.mk.inj hnil).1 hdigits.ne_nil
    · rename_i heq
      obtain ⟨rfl, rfl⟩ := Prod.mk.inj heq
      rfl

/-- A power of ten is read with its sign, which may lack. -/
theorem tenPower?_append {exponent : TenPower} (h : IsDigits exponent.digits)
    (hrest : ∀ c ∈ rest.head?, c.isDigit = false) :
    tenPower? (signCharacters exponent.sign ++ exponent.digits ++ rest) = some (exponent, rest) := by
  obtain ⟨sign, digits⟩ := exponent
  obtain ⟨digit, others, rfl⟩ := List.exists_cons_of_ne_nil h.ne_nil
  have hspan : spanDigits (digit :: (others ++ rest)) = (digit :: others, rest) :=
    spanDigits_append h.isDigit hrest
  have hdigit : digit.isDigit = true := h.isDigit digit List.mem_cons_self
  cases sign with
  | none =>
    -- a digit is not taken for a sign
    have hplus : digit ≠ '+' := fun heq => absurd (heq ▸ hdigit) (by decide)
    have hminus : digit ≠ '-' := fun heq => absurd (heq ▸ hdigit) (by decide)
    simp [tenPower?, signCharacters, hspan, hplus, hminus]
  | some sign => cases sign <;> simp [tenPower?, signCharacters, hspan]

/-- A power is read with its mark, and none is read if what follows has no mark. -/
theorem power?_append {power : Option TenPower} (h : ∀ exponent ∈ power, IsDigits exponent.digits)
    (hrest : EndsNumber rest) :
    Strict.power? (powerCharacters power ++ rest) = some (power, rest) := by
  cases power with
  | none =>
    show Strict.power? rest = _
    cases rest with
    | nil => rfl
    | cons c others =>
      obtain ⟨-, -, hsmall, hlarge⟩ := hrest c rfl
      simp [Strict.power?, hsmall, hlarge]
  | some exponent =>
    have hpower := tenPower?_append (h exponent rfl) (fun c hc => (hrest c hc).1)
    show (tenPower? (signCharacters exponent.sign ++ exponent.digits ++ rest)).map _ = _
    rw [hpower]
    rfl

/-- Neither a digit nor a point stands behind a fraction. -/
theorem powerCharacters_append_head (power : Option TenPower) (hrest : EndsNumber rest) :
    ∀ c ∈ (powerCharacters power ++ rest).head?, c.isDigit = false ∧ c ≠ '.' := by
  cases power with
  | none => exact fun c hc => ⟨(hrest c hc).1, (hrest c hc).2.1⟩
  | some exponent =>
    rintro c ⟨⟩
    decide

/-- No digit stands behind those before the point. -/
theorem fractionCharacters_append_head (fraction : Option (List Char))
    (hrest : ∀ c ∈ rest.head?, c.isDigit = false) :
    ∀ c ∈ (fractionCharacters fraction ++ rest).head?, c.isDigit = false := by
  cases fraction with
  | none => exact hrest
  | some digits =>
    rintro c ⟨⟩
    decide

/-- The reader finds the parts of a number if what follows does not go on with it. -/
theorem numeral?_characters (parts : NumberParts) (hrest : EndsNumber rest) :
    Strict.numeral? (parts.characters ++ rest) = some (parts.numeral, rest) := by
  have hafterFraction := powerCharacters_append_head parts.power hrest
  have hafterWhole := fractionCharacters_append_head parts.fraction
    (fun c hc => (hafterFraction c hc).1)
  have hpower := power?_append parts.isPower hrest
  have hfraction := fraction?_append parts.isFraction hafterFraction
  have hwhole := whole?_append parts.isWhole hafterWhole
  -- what begins with a minus is read as no digits
  have hunsigned : ∀ others, parts.whole ++ (fractionCharacters parts.fraction ++
      (powerCharacters parts.power ++ rest)) ≠ '-' :: others := by
    intro others hminus
    rw [hminus] at hwhole
    cases hwhole
  simp only [NumberParts.characters, NumberParts.unsigned, NumberParts.numeral, List.append_assoc]
  unfold Strict.numeral?
  cases hsign : parts.negative <;>
    simp [NumberParts.sign, hsign, signCharacters, hwhole, hfraction, hpower]

end parts

/-- A number begins with a minus or with a digit. -/
theorem NumberParts.exists_first (parts : NumberParts) :
    ∃ first more, parts.characters = first :: more ∧ (first = '-' ∨ first.isDigit = true) := by
  obtain ⟨digit, others, hwhole⟩ := List.exists_cons_of_ne_nil parts.isWhole.isDigits.ne_nil
  rw [characters, unsigned, hwhole, sign]
  cases parts.negative with
  | false =>
    refine ⟨digit, _, rfl, Or.inr (parts.isWhole.isDigits.isDigit digit ?_)⟩
    rw [hwhole]
    exact List.mem_cons_self
  | true => exact ⟨'-', _, rfl, Or.inl rfl⟩

/-! ## Whole numbers -/

/-- The parts of a whole number: its digits, after a minus below zero. -/
def wholeParts (value : Int) : NumberParts where
  negative := decide (value < 0)
  whole := Nat.toDigits 10 value.natAbs
  fraction := none
  power := none
  isWhole := isWholePart_toDigits value.natAbs
  isFraction := by simp
  isPower := by simp

/-- A whole number is printed as its parts. -/
theorem wholeText_eq (value : Int) : Json.wholeText value = (wholeParts value).characters := by
  by_cases hneg : value < 0 <;>
    simp [Json.wholeText, NumberParts.characters, NumberParts.unsigned, NumberParts.sign, wholeParts, hneg,
      signCharacters, fractionCharacters, powerCharacters]

/-- The digits of a whole number of 64 bits have its value. -/
theorem amount_wholeParts {value : Int} (h : Json.IsWholeRange value) :
    Strict.amount (wholeParts value).numeral = .ok (.whole value h) := by
  have hdigits : digitsValue (Nat.toDigits 10 value.natAbs) = value.natAbs :=
    Nat.ofDigitChars_ten_toDigits
  have hminus : ((wholeParts value).sign == some Sign.minus) = decide (value < 0) := by
    rw [NumberParts.sign, wholeParts]
    cases decide (value < 0) <;> rfl
  have hvalue : (if decide (value < 0) = true then -(value.natAbs : Int) else value.natAbs) = value := by
    split
    · rename_i hneg
      have hneg : value < 0 := of_decide_eq_true hneg
      omega
    · rename_i hneg
      have hneg : ¬ value < 0 := fun hlt => hneg (decide_eq_true hlt)
      omega
  -- zero is written without a minus, so it is not the binary64 zero that has one
  have hzero : (decide (value < 0) && value.natAbs == 0) = false := by
    rw [Bool.and_eq_false_iff, decide_eq_false_iff_not, beq_eq_false_iff_ne]
    omega
  show Strict.amount ⟨(wholeParts value).sign, .decimal (Nat.toDigits 10 value.natAbs) none none⟩ = _
  simp only [Strict.amount, hminus, hdigits, hvalue, hzero]
  rw [dif_pos h]
  rfl

/-! ## Numbers of the floating kind -/

/-- Without a power of ten a decimal is digits, a point and digits; zero must not count a power. -/
theorem exists_point_of_positional {d : Decimal} (h : d.digits = 0 → d.exponent = 0) :
    ∃ whole fraction, IsWholePart whole ∧ IsDigits fraction ∧
      (d.positional ".0").toList = whole ++ '.' :: fraction := by
  have hdigits := isDigits_toDigits d.digits
  unfold Decimal.positional
  dsimp only [Decimal.digitText]
  split
  · -- zeros behind the digits, and a point with a zero
    refine ⟨Nat.toDigits 10 d.digits ++ List.replicate d.exponent.toNat '0', ['0'], ?_,
      ⟨by simp, by simp⟩, by simp⟩
    by_cases hzero : d.digits = 0
    · rw [h hzero, hzero]
      exact Or.inl rfl
    · refine isWholePart_of_head? (hdigits.zeros_append _).2 hzero ?_
      rw [List.head?_append, Option.or_of_isSome (List.isSome_head?.mpr hdigits.ne_nil)]
  · split
    · -- the point among the digits, of which there are at least two
      rename_i hplaces hlength
      have hzero : d.digits ≠ 0 := fun hzero => hplaces (by rw [h hzero]; rfl)
      generalize hcount : (Nat.toDigits 10 d.digits).length - (-d.exponent).toNat = count
      have hwhole : IsDigits ((Nat.toDigits 10 d.digits).take count) :=
        hdigits.of_subset (by simp [hdigits.ne_nil]; omega) (List.take_subset _ _)
      have hfraction : IsDigits ((Nat.toDigits 10 d.digits).drop count) :=
        hdigits.of_subset (by simp; omega) (List.drop_subset _ _)
      have hhead : ((Nat.toDigits 10 d.digits).take count).head? = (Nat.toDigits 10 d.digits).head? := by
        rw [List.head?_take, if_neg (by omega)]
      exact ⟨_, _, isWholePart_of_head? hwhole hzero hhead, hfraction, by simp⟩
    · -- zeros before the digits, after the point
      exact ⟨['0'], List.replicate ((-d.exponent).toNat - (Nat.toDigits 10 d.digits).length) '0' ++ _,
        Or.inl rfl, (hdigits.zeros_append _).1, by simp⟩

/-- The power of ten of a leading digit, which is printed with its sign. -/
def writtenPower (lead : Int) : TenPower :=
  ⟨some (if lead < 0 then .minus else .plus), Nat.toDigits 10 lead.natAbs⟩

/-- The power is printed with a mark and a sign, then its digits. -/
theorem powerCharacters_writtenPower (lead : Int) :
    powerCharacters (some (writtenPower lead))
      = (if lead < 0 then "e-" else "e+").toList ++ (toString lead.natAbs).toList := by
  rw [Nat.toString_eq_repr, Nat.toList_repr, writtenPower]
  split <;> rfl

/-- With a power of ten a decimal is one digit, the others after a point if there are any, and the power. -/
theorem exists_parts_of_scientific (d : Decimal) :
    ∃ digit fraction, IsDigits [digit] ∧ (∀ digits ∈ fraction, IsDigits digits) ∧
      d.scientific.toList
        = [digit] ++ (fractionCharacters fraction ++ powerCharacters (some (writtenPower d.lead))) := by
  have hdigits := isDigits_toDigits d.digits
  have htext := powerCharacters_writtenPower d.lead
  rcases hchars : Nat.toDigits 10 d.digits with _ | ⟨first, _ | ⟨second, others⟩⟩ <;>
    rw [hchars] at hdigits
  · exact absurd rfl hdigits.ne_nil
  · refine ⟨first, none, hdigits, by simp, ?_⟩
    simp [Decimal.scientific, Decimal.digitText, hchars, fractionCharacters, htext]
  · have hfraction : IsDigits (second :: others) :=
      hdigits.of_subset (by simp) (List.subset_cons_self first _)
    refine ⟨first, some (second :: others), hdigits.of_subset (by simp) (by simp),
      by simpa using hfraction, ?_⟩
    simp [Decimal.scientific, Decimal.digitText, hchars, fractionCharacters, htext]

/-- A magnitude is printed as a number without a sign, to which either sign may be put. -/
theorem exists_parts_magnitude (negative : Bool) (m : Magnitude) :
    ∃ parts : NumberParts,
      parts.negative = negative ∧ (Layout.json.magnitude m).toList = parts.unsigned := by
  unfold Layout.magnitude
  dsimp only
  split
  · obtain ⟨whole, fraction, hwhole, hfraction, htext⟩ :=
      exists_point_of_positional (@Magnitude.exponent_shortest Layout.json.tie m)
    refine ⟨⟨negative, whole, some fraction, none, hwhole, by simpa using hfraction, by simp⟩, rfl, ?_⟩
    rw [NumberParts.unsigned, powerCharacters, List.append_nil]
    exact htext
  · obtain ⟨digit, fraction, hdigit, hfraction, htext⟩ :=
      exists_parts_of_scientific (m.shortest Layout.json.tie)
    have hpower : IsDigits (writtenPower (m.shortest Layout.json.tie).lead).digits := isDigits_toDigits _
    exact ⟨⟨negative, [digit], fraction, some _, isWholePart_singleton hdigit, hfraction,
      by simpa using hpower⟩, rfl, htext⟩

/-- Every number of a JSON value is printed as a number of strict JSON. -/
theorem exists_parts (number : Json.Number) :
    ∃ parts : NumberParts, number.characters = parts.characters := by
  cases number with
  | whole value h => exact ⟨wholeParts value, wholeText_eq value⟩
  | float negative m =>
    obtain ⟨parts, rfl, hparts⟩ := exists_parts_magnitude negative m
    refine ⟨parts, ?_⟩
    rw [Json.Number.characters, Layout.text, String.toList_append, hparts, NumberParts.characters,
      NumberParts.sign]
    cases parts.negative <;> rfl

end Document

end RollConditions
