/-
  The number that a fact carries.

  A fact carries a number for a path if it is the path, a colon, and an integer: decimal digits, after a
  minus or not.  `WritesInteger` is the grammar of integers together with their values, and it knows no
  bound.  What the library reads is all of it but for the size: a number has to fit 64 bits.

    1. THE GRAMMAR.  `whole?` reads exactly the integers of the grammar, by induction on the digits from
       the last one on, since the last digit is the one that comes in with weight one.
    2. THE CUT.  No integer has a colon in it, so the colon before the number is the last one of the fact,
       and the path is what stands before it: a fact cannot carry a number for two paths.
-/
import Mathlib.Data.List.Induction
import RollConditions.Proofs.Lookup

namespace RollConditions

namespace Fact

/-! ## The grammar of integers -/

/-- The number that a decimal digit stands for. -/
def digitValue (c : Char) : Nat := c.toNat - '0'.toNat

/-- One or more of the digits from `0` to `9`, and the number that they write: every digit that follows
    makes what stands before it count ten times as much. -/
inductive WritesNatural : List Char → Nat → Prop where
  /-- A single digit. -/
  | digit {c : Char} (hc : c.isDigit = true) : WritesNatural [c] (digitValue c)
  /-- One more digit at the end. -/
  | more {front : List Char} {value : Nat} {c : Char} (hfront : WritesNatural front value)
      (hc : c.isDigit = true) : WritesNatural (front ++ [c]) (10 * value + digitValue c)

/-- An integer and its value: digits, after a minus or not. -/
inductive WritesInteger : List Char → Int → Prop where
  /-- Digits alone. -/
  | plain {digits : List Char} {value : Nat} (hdigits : WritesNatural digits value) :
      WritesInteger digits value
  /-- Digits after a minus. -/
  | minus {digits : List Char} {value : Nat} (hdigits : WritesNatural digits value) :
      WritesInteger ('-' :: digits) (-value)

theorem WritesNatural.isDigit {digits : List Char} {value : Nat} (h : WritesNatural digits value) :
    ∀ c ∈ digits, c.isDigit = true := by
  induction h with
  | digit hc => exact List.forall_mem_singleton.mpr hc
  | more _ hc ih => exact List.forall_mem_append.mpr ⟨ih, List.forall_mem_singleton.mpr hc⟩

theorem WritesNatural.ne_nil {digits : List Char} {value : Nat} (h : WritesNatural digits value) :
    digits ≠ [] := by
  cases h <;> simp

/-- Digits have one value, which is worked out from the first digit on. -/
theorem WritesNatural.ofDigitChars_eq {digits : List Char} {value : Nat}
    (h : WritesNatural digits value) : Nat.ofDigitChars 10 digits 0 = value := by
  induction h with
  | digit hc => rw [Nat.ofDigitChars_cons, Nat.ofDigitChars_nil, Nat.mul_zero, Nat.zero_add, digitValue]
  | more _ hc ih =>
    rw [Nat.ofDigitChars_append, ih, Nat.ofDigitChars_cons, Nat.ofDigitChars_nil, digitValue]

/-- By induction from the last digit on: without it, either no digit is left or the rest writes a number. -/
theorem writesNatural_ofDigitChars {digits : List Char} (hne : digits ≠ [])
    (hdigits : ∀ c ∈ digits, c.isDigit = true) : WritesNatural digits (Nat.ofDigitChars 10 digits 0) := by
  induction digits using List.reverseRecOn with
  | nil => exact absurd rfl hne
  | append_singleton front c ih =>
    obtain ⟨hfront, hlast⟩ := List.forall_mem_append.mp hdigits
    have hc : c.isDigit = true := hlast c List.mem_cons_self
    rw [Nat.ofDigitChars_append, Nat.ofDigitChars_cons, Nat.ofDigitChars_nil]
    cases front with
    | nil =>
      rw [Nat.ofDigitChars_nil, Nat.mul_zero, Nat.zero_add]
      exact .digit hc
    | cons first others => exact .more (ih (List.cons_ne_nil first others) hfront) hc

/-- The digits that are read are those of the grammar, with their value. -/
theorem digits?_eq_some_iff {written : List Char} {value : Nat} :
    digits? written = some value ↔ WritesNatural written value := by
  rw [digits?, Option.ite_none_right_eq_some, Option.some.injEq, List.all_eq_true]
  constructor
  · rintro ⟨⟨hne, hdigits⟩, rfl⟩
    exact writesNatural_ofDigitChars hne hdigits
  · intro h
    exact ⟨⟨h.ne_nil, h.isDigit⟩, h.ofDigitChars_eq⟩

theorem whole?_minus (digits : List Char) :
    whole? ('-' :: digits) = (digits? digits).map (fun magnitude : Nat => -(magnitude : Int)) := by
  rw [whole?]
  cases digits? digits <;> rfl

/-- **The integers that are read are those of the grammar**, with their value. -/
theorem whole?_eq_some_iff {written : List Char} {value : Int} :
    whole? written = some value ↔ WritesInteger written value := by
  constructor
  · intro h
    unfold whole? at h
    split at h
    · rename_i digits
      obtain ⟨magnitude, hmagnitude, rfl⟩ := Option.map_eq_some_iff.mp ((whole?_minus digits).symm.trans h)
      exact .minus (digits?_eq_some_iff.mp hmagnitude)
    · obtain ⟨magnitude, hmagnitude, rfl⟩ := Option.map_eq_some_iff.mp h
      exact .plain (digits?_eq_some_iff.mp hmagnitude)
  · intro h
    cases h with
    | minus hdigits =>
      rw [whole?_minus, digits?_eq_some_iff.mpr hdigits]
      rfl
    | plain hdigits =>
      unfold whole?
      split
      · -- digits do not begin with a minus
        exact absurd (hdigits.isDigit '-' List.mem_cons_self) (by decide)
      · rw [digits?_eq_some_iff.mpr hdigits]
        rfl

/-- A number is written by its own decimal form. -/
theorem writesNatural_repr (value : Nat) : WritesNatural value.repr.toList value := by
  rw [Nat.toList_repr]
  have h : WritesNatural (Nat.toDigits 10 value) (Nat.ofDigitChars 10 (Nat.toDigits 10 value) 0) :=
    writesNatural_ofDigitChars Nat.toDigits_ne_nil
      (fun c hc => Nat.isDigit_of_mem_toDigits (by decide) (by decide) hc)
  rwa [Nat.ofDigitChars_ten_toDigits] at h

theorem writesInteger_toString (value : Int) : WritesInteger (toString value).toList value := by
  cases value with
  | ofNat n => exact .plain (writesNatural_repr n)
  | negSucc n =>
    show WritesInteger ("-" ++ (n + 1).repr).toList _
    rw [String.toList_append]
    exact .minus (writesNatural_repr (n + 1))

/-- No integer has a colon in it. -/
theorem WritesInteger.colon_not_mem {written : List Char} {value : Int} (h : WritesInteger written value) :
    ':' ∉ written := by
  have hcolon : ¬ ':'.isDigit = true := by decide
  cases h with
  | plain hdigits => exact fun hmem => hcolon (hdigits.isDigit _ hmem)
  | minus hdigits =>
    intro hmem
    rcases List.mem_cons.mp hmem with heq | hmem
    · exact absurd heq (by decide)
    · exact hcolon (hdigits.isDigit _ hmem)

/-! ## The facts that carry a number -/

/-- A fact is a path, a colon, and an integer with the value, of any size. -/
def Carries (path fact : String) (value : Int) : Prop :=
  ∃ written : String, fact = path ++ ":" ++ written ∧ WritesInteger written.toList value

/-- The same, said of characters. -/
theorem carries_iff {path fact : String} {value : Int} : Carries path fact value ↔
    ∃ written, fact.toList = stem path ++ written ∧ WritesInteger written value := by
  constructor
  · rintro ⟨written, rfl, hwritten⟩
    refine ⟨written.toList, ?_, hwritten⟩
    rw [String.toList_append, String.toList_append]
    rfl
  · rintro ⟨written, hfact, hwritten⟩
    refine ⟨String.ofList written, ?_, by rwa [String.toList_ofList]⟩
    rw [← String.toList_inj, hfact, String.toList_append, String.toList_append, String.toList_ofList,
      String.toList_ofList]
    rfl

/-- A reading is a fact that carries a number of 64 bits. -/
theorem reading?_eq_some_iff_carries {path fact : String} {value : Int} :
    reading? path fact = some value ↔ Carries path fact value ∧ IsReadingRange value := by
  rw [reading?_eq_some_iff, carries_iff]
  constructor
  · rintro ⟨written, hfact, hwhole, hrange⟩
    exact ⟨⟨written, hfact, whole?_eq_some_iff.mp hwhole⟩, hrange⟩
  · rintro ⟨⟨written, hfact, hwritten⟩, hrange⟩
    exact ⟨written, hfact, whole?_eq_some_iff.mpr hwritten, hrange⟩

theorem reading?_isSome_iff_carries {path fact : String} : (reading? path fact).isSome = true ↔
    ∃ value, Carries path fact value ∧ IsReadingRange value := by
  simp only [Option.isSome_iff_exists, reading?_eq_some_iff_carries]

theorem carries_toString (path : String) (value : Int) :
    Carries path (path ++ ":" ++ toString value) value :=
  ⟨toString value, rfl, writesInteger_toString value⟩

/-- What stands before the last colon shows where it is. -/
theorem append_colon_inj {path other written rest : List Char} (hwritten : ':' ∉ written)
    (hrest : ':' ∉ rest) (h : path ++ ':' :: written = other ++ ':' :: rest) : path = other := by
  rcases List.append_eq_append_iff.mp h with ⟨more, rfl, hmore⟩ | ⟨more, rfl, hmore⟩
  · cases more with
    | nil => exact (List.append_nil path).symm
    | cons c more =>
      -- the colon of the longer path would stand in the number after the shorter one
      obtain ⟨-, rfl⟩ := List.cons.inj hmore
      exact absurd (List.mem_append_right more List.mem_cons_self) hwritten
  · cases more with
    | nil => exact List.append_nil other
    | cons c more =>
      obtain ⟨-, rfl⟩ := List.cons.inj hmore
      exact absurd (List.mem_append_right more List.mem_cons_self) hrest

/-- **A fact carries a number for one path only.** -/
theorem Carries.path_unique {path other fact : String} {value number : Int}
    (h : Carries path fact value) (hother : Carries other fact number) : path = other := by
  obtain ⟨written, hfact, hwritten⟩ := carries_iff.mp h
  obtain ⟨rest, hfact', hrest⟩ := carries_iff.mp hother
  rw [hfact, stem, stem, List.append_assoc, List.append_assoc] at hfact'
  exact String.toList_inj.mp (append_colon_inj hwritten.colon_not_mem hrest.colon_not_mem hfact')

theorem isReadingRange_iff {value : Int} :
    IsReadingRange value ↔ -0x8000000000000000 ≤ value ∧ value ≤ 0x7fffffffffffffff := by
  unfold IsReadingRange
  omega

/-- **A reading is an integer after the path.**

    A fact gives a value to a path if it is the path, a colon, and an integer with that value, which may
    have leading zeros, and the value has 64 bits.  So a number that is written after a path and a colon is
    read back; the path is the text before the last colon of a reading; and no fact is a reading of two
    paths. -/
theorem reading_is_integer_after_path :
    (∀ path fact value, reading? path fact = some value ↔
      (∃ written : String, fact = path ++ ":" ++ written ∧ WritesInteger written.toList value) ∧
        -0x8000000000000000 ≤ value ∧ value ≤ 0x7fffffffffffffff) ∧
    (∀ (path : String) (value : Int), -0x8000000000000000 ≤ value → value ≤ 0x7fffffffffffffff →
      reading? path (path ++ ":" ++ toString value) = some value) ∧
    (∀ path fact, (reading? path fact).isSome = true →
      ∃ written : String, fact = path ++ ":" ++ written ∧ ':' ∉ written.toList) ∧
    (∀ path other fact, (reading? path fact).isSome = true → (reading? other fact).isSome = true →
      path = other) := by
  refine ⟨?_, ?_, ?_, ?_⟩
  · intro path fact value
    rw [reading?_eq_some_iff_carries, isReadingRange_iff]
    rfl
  · intro path value hlow hhigh
    exact reading?_eq_some_iff_carries.mpr
      ⟨carries_toString path value, isReadingRange_iff.mpr ⟨hlow, hhigh⟩⟩
  · intro path fact h
    obtain ⟨value, ⟨written, hfact, hwritten⟩, -⟩ := reading?_isSome_iff_carries.mp h
    exact ⟨written, hfact, hwritten.colon_not_mem⟩
  · intro path other fact h hother
    obtain ⟨value, hvalue, -⟩ := reading?_isSome_iff_carries.mp h
    obtain ⟨number, hnumber, -⟩ := reading?_isSome_iff_carries.mp hother
    exact hvalue.path_unique hnumber

/-- The least number of 64 bits is read back, for its own path only. -/
theorem least_level_is_read_back :
    -0x8000000000000000 ≤ (-9223372036854775808 : Int) ∧
    (-9223372036854775808 : Int) ≤ 0x7fffffffffffffff ∧
    reading? "self:level" ("self:level" ++ ":" ++ toString (-9223372036854775808 : Int))
      = some (-9223372036854775808) ∧
    ∀ other, (reading? other "self:level:-9223372036854775808").isSome = true → "self:level" = other := by
  obtain ⟨-, hback, -, hone⟩ := reading_is_integer_after_path
  refine ⟨by decide, by decide, hback "self:level" (-9223372036854775808) (by decide) (by decide), ?_⟩
  intro other hother
  exact hone "self:level" other "self:level:-9223372036854775808" (by decide) hother

/-- Zeros may lead, but a sign other than a minus, a point, and one more than the range are refused. -/
example : ["foo:-007", "foo:+7", "foo:7.0", "foo:", "foo:-", "foo:9223372036854775808"].map (reading? "foo")
    = [some (-7), none, none, none, none, none] := by decide

end Fact

end RollConditions
