/-
  The order of texts is the order of their bytes.

  Texts are compared by code points.  In UTF-8 the first byte of a character tells how many bytes it has,
  more for greater code points, and the bits of the code point follow from the highest on; so of two
  different characters the smaller one has the smaller byte at the first difference, whatever comes after
  it (`utf8EncodeChar_append_lt`), and the same is true of texts.
-/
import Mathlib.Data.List.Lex

namespace RollConditions

/-- The bytes of a text in UTF-8. -/
def textBytes (text : String) : List UInt8 := text.toUTF8.data.toList

theorem textBytes_eq (text : String) : textBytes text = text.toList.flatMap String.utf8EncodeChar := by
  rw [textBytes, String.toUTF8_eq_toByteArray, ← String.utf8Encode_toList]
  exact List.toList_data_toByteArray

/-- Bytes given as numbers are compared as numbers, and what follows them counts if they are equal. -/
theorem ofNat_cons_lt_iff {a b : Nat} (ha : a < 256) (hb : b < 256) {x y : List UInt8} :
    UInt8.ofNat a :: x < UInt8.ofNat b :: y ↔ a < b ∨ a = b ∧ x < y := by
  have hlt : UInt8.ofNat a < UInt8.ofNat b ↔ a < b := by
    rw [UInt8.lt_iff_toNat_lt, UInt8.toNat_ofNat_of_lt' ha, UInt8.toNat_ofNat_of_lt' hb]
  have heq : UInt8.ofNat a = UInt8.ofNat b ↔ a = b := by
    rw [← UInt8.toNat_inj, UInt8.toNat_ofNat_of_lt' ha, UInt8.toNat_ofNat_of_lt' hb]
  rw [List.cons_lt_cons_iff, hlt, heq]

/-- A smaller character has the smaller byte at the first difference, whatever follows. -/
theorem utf8EncodeChar_append_lt {c d : Char} (h : c < d) (x y : List UInt8) :
    String.utf8EncodeChar c ++ x < String.utf8EncodeChar d ++ y := by
  have hlt : c.val.toNat < d.val.toNat := h
  have hd : d.val.toNat < 0x110000 := by
    rcases d.valid with hsmall | hlarge
    · exact Nat.lt_trans hsmall (by decide)
    · exact hlarge.2
  unfold String.utf8EncodeChar
  generalize c.val.toNat = v at hlt
  generalize d.val.toNat = w at hlt hd
  -- the bits are cut off in steps of six
  have hcut : ∀ n : Nat, n / 4096 = n / 64 / 64 ∧ n / 262144 = n / 64 / 64 / 64 := by omega
  simp only [hcut]
  split_ifs <;> simp (disch := omega) only [List.cons_append, List.nil_append, ofNat_cons_lt_iff] <;> omega

theorem flatMap_utf8EncodeChar_lt {xs ys : List Char} (h : xs < ys) :
    xs.flatMap String.utf8EncodeChar < ys.flatMap String.utf8EncodeChar := by
  induction xs generalizing ys with
  | nil =>
    cases ys with
    | nil => exact absurd h (List.not_lt_nil _)
    | cons d ys =>
      rw [List.flatMap_cons, List.flatMap_nil]
      cases hbytes : String.utf8EncodeChar d with
      | nil => exact absurd hbytes (String.utf8EncodeChar_ne_nil)
      | cons byte bytes => exact List.nil_lt_cons _ _
  | cons c xs ih =>
    cases ys with
    | nil => exact absurd h (List.not_lt_nil _)
    | cons d ys =>
      rw [List.flatMap_cons, List.flatMap_cons]
      rcases List.cons_lt_cons_iff.mp h with hlt | ⟨rfl, hlt⟩
      · exact utf8EncodeChar_append_lt hlt _ _
      · exact List.append_left_lt (ih hlt)

/-- **Texts are in the order of their bytes.** -/
theorem lt_iff_textBytes_lt {a b : String} : a < b ↔ textBytes a < textBytes b := by
  rw [textBytes_eq, textBytes_eq, String.lt_iff]
  refine ⟨flatMap_utf8EncodeChar_lt, fun h => ?_⟩
  rcases Std.lt_trichotomy a.toList b.toList with hlt | heq | hgt
  · exact hlt
  · rw [heq] at h
    exact absurd h (List.lt_irrefl _)
  · exact absurd (flatMap_utf8EncodeChar_lt hgt) (List.lt_asymm h)

end RollConditions
