/-
  The edit distance is the least number of edits.

  An EDIT inserts, deletes or replaces one character anywhere in a text.  `Text.editDistance` makes none:
  it fills rows of numbers, one row for each character of the first text.  That it counts the shortest way
  from one text to the other takes two steps.

    1. ALIGNMENTS.  Edits may be made in any order and anywhere, so they cannot be counted by recursion on
       the texts.  An alignment can: it passes through both texts once, and keeps, deletes, inserts or
       replaces what it meets.  An alignment is a chain of as many edits (`Aligned.edits`), and a chain of
       edits leaves an alignment that costs no more (`Edits.exists_aligned`).
    2. ROWS.  What an alignment does first is one of four things, so the least cost from `first :: a` to
       `other :: b` is a minimum over the costs that the row of `a` holds (`leastCost_cons_cons`).

  Two bounds follow from alignments alone.  No more edits are ever needed than the longer of two texts has
  characters, and with fewer edits than one of them has characters some character is kept.
-/
import Mathlib.Data.List.Basic
import Mathlib.Order.Bounds.Basic
import Mathlib.Order.MinMax
import RollConditions.Text.EditDistance

namespace RollConditions

namespace Text

/-! ## Edits -/

/-- One character of a text is inserted, deleted or replaced. -/
inductive Edit : List Char → List Char → Prop where
  | insert (c : Char) (a : List Char) : Edit a (c :: a)
  | delete (c : Char) (a : List Char) : Edit (c :: a) a
  | replace (c d : Char) (a : List Char) : Edit (c :: a) (d :: a)
  /-- The edit is made further on. -/
  | later (c : Char) {a b : List Char} (edit : Edit a b) : Edit (c :: a) (c :: b)

/-- A number of edits, one after the other. -/
inductive Edits : Nat → List Char → List Char → Prop where
  | none (a : List Char) : Edits 0 a a
  | more {n : Nat} {a b c : List Char} (edits : Edits n a b) (edit : Edit b c) : Edits (n + 1) a c

/-- The edit distance between two texts: the least number of edits that turn the one into the other. -/
def IsEditDistance (a b : String) (n : Nat) : Prop := IsLeast {m | Edits m a.toList b.toList} n

namespace Edits

variable {n : Nat} {a b c : List Char}

/-- The same edits behind one more character. -/
theorem later (x : Char) (h : Edits n a b) : Edits n (x :: a) (x :: b) := by
  induction h with
  | none a => exact .none (x :: a)
  | more _ edit ih => exact ih.more (.later x edit)

/-- One more edit before the others. -/
theorem before (edit : Edit a b) (h : Edits n b c) : Edits (n + 1) a c := by
  induction h with
  | none b => exact (Edits.none a).more edit
  | more _ last ih => exact (ih edit).more last

end Edits

/-! ## Alignments -/

/-- A way through two texts from left to right, with the number of characters that are not kept. -/
inductive Aligned : Nat → List Char → List Char → Prop where
  | done : Aligned 0 [] []
  | keep {n : Nat} {a b : List Char} (c : Char) (rest : Aligned n a b) : Aligned n (c :: a) (c :: b)
  | delete {n : Nat} {a b : List Char} (c : Char) (rest : Aligned n a b) : Aligned (n + 1) (c :: a) b
  | insert {n : Nat} {a b : List Char} (c : Char) (rest : Aligned n a b) : Aligned (n + 1) a (c :: b)
  | replace {n : Nat} {a b : List Char} (c d : Char) (rest : Aligned n a b) :
    Aligned (n + 1) (c :: a) (d :: b)

namespace Aligned

variable {n : Nat} {a b : List Char}

/-- A text is aligned with itself. -/
theorem refl (a : List Char) : Aligned 0 a a := by
  induction a with
  | nil => exact .done
  | cons c _ ih => exact .keep c ih

/-- What an alignment does not keep is edited, from left to right. -/
theorem edits (h : Aligned n a b) : Edits n a b := by
  induction h with
  | done => exact .none []
  | keep c _ ih => exact ih.later c
  | delete c _ ih => exact ih.before (.delete c _)
  | insert c _ ih => exact ih.more (.insert c _)
  | replace c d _ ih => exact (ih.later d).before (.replace c d _)

/-- **One more edit** of the second text makes an alignment at most one more expensive.  By induction on
    the alignment; an edit is made where the alignment stands, or further on. -/
theorem exists_of_edit (h : Aligned n a b) {c : List Char} (edit : Edit b c) :
    ∃ m, m ≤ n + 1 ∧ Aligned m a c := by
  induction h generalizing c with
  | done =>
    cases edit with
    | insert d _ => exact ⟨1, Nat.le_refl 1, .insert d .done⟩
  | @keep n a b x rest ih =>
    cases edit with
    | insert d _ => exact ⟨n + 1, Nat.le_refl _, .insert d (.keep x rest)⟩
    | delete _ _ => exact ⟨n + 1, Nat.le_refl _, .delete x rest⟩
    | replace _ d _ => exact ⟨n + 1, Nat.le_refl _, .replace x d rest⟩
    | later _ edit =>
      obtain ⟨m, hm, hrest⟩ := ih edit
      exact ⟨m, hm, .keep x hrest⟩
  | @delete n a b x rest ih =>
    obtain ⟨m, hm, hrest⟩ := ih edit
    exact ⟨m + 1, by omega, .delete x hrest⟩
  | @insert n a b x rest ih =>
    cases edit with
    | insert d _ => exact ⟨n + 2, Nat.le_refl _, .insert d (.insert x rest)⟩
    | delete _ _ => exact ⟨n, by omega, rest⟩
    | replace _ d _ => exact ⟨n + 1, by omega, .insert d rest⟩
    | later _ edit =>
      obtain ⟨m, hm, hrest⟩ := ih edit
      exact ⟨m + 1, by omega, .insert x hrest⟩
  | @replace n a b x y rest ih =>
    cases edit with
    | insert d _ => exact ⟨n + 2, Nat.le_refl _, .insert d (.replace x y rest)⟩
    | delete _ _ => exact ⟨n + 1, by omega, .delete x rest⟩
    | replace _ d _ => exact ⟨n + 1, by omega, .replace x d rest⟩
    | later _ edit =>
      obtain ⟨m, hm, hrest⟩ := ih edit
      exact ⟨m + 1, by omega, .replace x y hrest⟩

/-- Without a character that is kept, an alignment costs as much as either text is long. -/
theorem kept_or_length_le (h : Aligned n a b) :
    (∃ c ∈ a, c ∈ b) ∨ (a.length ≤ n ∧ b.length ≤ n) := by
  induction h with
  | done => exact Or.inr ⟨Nat.le_refl 0, Nat.le_refl 0⟩
  | keep c _ _ => exact Or.inl ⟨c, List.mem_cons_self, List.mem_cons_self⟩
  | delete d _ ih =>
    rcases ih with ⟨c, ha, hb⟩ | ⟨ha, hb⟩
    · exact Or.inl ⟨c, List.mem_cons_of_mem d ha, hb⟩
    · exact Or.inr ⟨Nat.succ_le_succ ha, Nat.le_succ_of_le hb⟩
  | insert d _ ih =>
    rcases ih with ⟨c, ha, hb⟩ | ⟨ha, hb⟩
    · exact Or.inl ⟨c, ha, List.mem_cons_of_mem d hb⟩
    · exact Or.inr ⟨Nat.le_succ_of_le ha, Nat.succ_le_succ hb⟩
  | replace d e _ ih =>
    rcases ih with ⟨c, ha, hb⟩ | ⟨ha, hb⟩
    · exact Or.inl ⟨c, List.mem_cons_of_mem d ha, List.mem_cons_of_mem e hb⟩
    · exact Or.inr ⟨Nat.succ_le_succ ha, Nat.succ_le_succ hb⟩

/-- Two texts can be aligned without keeping anything: characters are replaced as long as there are
    both, and the rest is inserted or deleted. -/
theorem max_length (a b : List Char) : Aligned (max a.length b.length) a b := by
  induction a generalizing b with
  | nil =>
    rw [List.length_nil, Nat.zero_max]
    induction b with
    | nil => exact .done
    | cons d _ ih => exact .insert d ih
  | cons c a ih =>
    cases b with
    | nil =>
      have hrest : Aligned a.length a [] := by simpa using ih []
      exact .delete c hrest
    | cons d b =>
      rw [List.length_cons, List.length_cons, Nat.add_max_add_right]
      exact .replace c d (ih b)

end Aligned

/-- **Edits can be put in order.**  A chain of edits leaves an alignment that costs no more. -/
theorem Edits.exists_aligned {n : Nat} {a b : List Char} (h : Edits n a b) :
    ∃ m, m ≤ n ∧ Aligned m a b := by
  induction h with
  | none a => exact ⟨0, Nat.le_refl 0, .refl a⟩
  | more _ edit ih =>
    obtain ⟨m, hm, haligned⟩ := ih
    obtain ⟨k, hk, hmore⟩ := haligned.exists_of_edit edit
    exact ⟨k, by omega, hmore⟩

/-! ## Rows -/

/-- The cost of the cheapest alignments of two texts. -/
def LeastCost (a b : List Char) (n : Nat) : Prop := IsLeast {m | Aligned m a b} n

/-- The cheapest alignment is as long as the shortest chain of edits. -/
theorem isLeast_edits_of_leastCost {a b : List Char} {n : Nat} (h : LeastCost a b n) :
    IsLeast {m | Edits m a b} n := by
  refine ⟨h.1.edits, ?_⟩
  intro m hm
  obtain ⟨k, hk, haligned⟩ := hm.exists_aligned
  exact Nat.le_trans (h.2 haligned) hk

/-- Nothing is kept of a text that has no character. -/
theorem leastCost_nil (b : List Char) : LeastCost [] b b.length := by
  constructor
  · simpa using Aligned.max_length [] b
  · intro n hn
    rcases hn.kept_or_length_le with ⟨c, hc, _⟩ | ⟨_, hlength⟩
    · exact absurd hc List.not_mem_nil
    · exact hlength

/-- Beside the empty text a first character can only be deleted. -/
theorem leastCost_cons_nil {c : Char} {a : List Char} {n : Nat} (h : LeastCost a [] n) :
    LeastCost (c :: a) [] (n + 1) := by
  refine ⟨.delete c h.1, ?_⟩
  intro m hm
  cases hm with
  | delete _ rest => exact Nat.succ_le_succ (h.2 rest)

/-- **The minimum of a cell.**  The first characters are deleted, inserted, or matched; a match is free if
    they are the same. -/
theorem leastCost_cons_cons {c d : Char} {a b : List Char} {deleted inserted matched : Nat}
    (hdeleted : LeastCost a (d :: b) deleted) (hinserted : LeastCost (c :: a) b inserted)
    (hmatched : LeastCost a b matched) :
    LeastCost (c :: a) (d :: b)
      (min (deleted + 1) (min (inserted + 1) (matched + if c = d then 0 else 1))) := by
  constructor
  · -- each of the three can be had
    have hmatch : Aligned (matched + if c = d then 0 else 1) (c :: a) (d :: b) := by
      by_cases h : c = d
      · subst h
        rw [if_pos rfl]
        exact .keep c hmatched.1
      · rw [if_neg h]
        exact .replace c d hmatched.1
    rcases min_choice (deleted + 1) (min (inserted + 1) (matched + if c = d then 0 else 1))
      with hmin | hmin
    · rw [hmin]
      exact .delete c hdeleted.1
    · rw [hmin]
      rcases min_choice (inserted + 1) (matched + if c = d then 0 else 1) with hmin | hmin
      · rw [hmin]
        exact .insert d hinserted.1
      · rw [hmin]
        exact hmatch
  · -- whatever an alignment does first, it costs one of the three at least
    intro n hn
    cases hn with
    | keep _ rest =>
      have hrest := hmatched.2 rest
      rw [if_pos rfl]
      omega
    | delete _ rest =>
      have hrest := hdeleted.2 rest
      omega
    | insert _ rest =>
      have hrest := hinserted.2 rest
      omega
    | replace _ _ rest =>
      have hrest := hmatched.2 rest
      split <;> omega

/-- The first number of a row belongs to the whole of the second text. -/
theorem headD_of_forall₂_tails {R : List Char → Nat → Prop} {b : List Char} {row : List Nat}
    (h : List.Forall₂ R b.tails row) : R b (row.headD 0) := by
  cases b with
  | nil =>
    cases h with
    | cons hhead _ => exact hhead
  | cons d b =>
    cases h with
    | cons hhead _ => exact hhead

theorem forall₂_emptyRow (b : List Char) : List.Forall₂ (LeastCost []) b.tails (emptyRow b) := by
  induction b with
  | nil => exact .cons (leastCost_nil []) .nil
  | cons d b ih => exact .cons (leastCost_nil (d :: b)) ih

/-- **The next row.**  One more character in front of the first text; by induction on the second text, as
    the row is filled from its end. -/
theorem forall₂_nextRow {a b : List Char} {row : List Nat} (c : Char)
    (h : List.Forall₂ (LeastCost a) b.tails row) :
    List.Forall₂ (LeastCost (c :: a)) b.tails (nextRow c b row) := by
  induction b generalizing row with
  | nil =>
    cases h with
    | cons hhead htail =>
      cases htail
      exact .cons (leastCost_cons_nil hhead) .nil
  | cons d b ih =>
    cases h with
    | cons hhead htail =>
      have hshorter := ih htail
      refine .cons ?_ hshorter
      exact leastCost_cons_cons hhead (headD_of_forall₂_tails hshorter) (headD_of_forall₂_tails htail)

/-- Every number of a row is the least cost to a suffix of the second text. -/
theorem forall₂_distances (a b : List Char) : List.Forall₂ (LeastCost a) b.tails (distances a b) := by
  induction a with
  | nil => exact forall₂_emptyRow b
  | cons c a ih => exact forall₂_nextRow c ih

/-- **The rows count edits.**  The edit distance that is worked out is the least number of edits. -/
theorem isEditDistance_editDistance (a b : String) : IsEditDistance a b (editDistance a b) :=
  isLeast_edits_of_leastCost (headD_of_forall₂_tails (forall₂_distances a.toList b.toList))

theorem isEditDistance_iff {a b : String} {n : Nat} : IsEditDistance a b n ↔ editDistance a b = n :=
  ⟨fun h => (isEditDistance_editDistance a b).unique h, fun h => h ▸ isEditDistance_editDistance a b⟩

instance (a b : String) (n : Nat) : Decidable (IsEditDistance a b n) :=
  decidable_of_iff (editDistance a b = n) isEditDistance_iff.symm

example : IsEditDistance "nto" "not" 2 := by decide

/-! ## Bounds -/

/-- With fewer edits than one of the texts has characters, a character is kept. -/
theorem exists_kept_of_editDistance_lt {a b : String}
    (h : editDistance a b < a.length ∨ editDistance a b < b.length) : ∃ c ∈ a.toList, c ∈ b.toList := by
  obtain ⟨m, hm, haligned⟩ := (isEditDistance_editDistance a b).1.exists_aligned
  rcases haligned.kept_or_length_le with hkept | ⟨ha, hb⟩
  · exact hkept
  · rw [String.length_toList] at ha hb
    omega

/-- No more edits are needed than the longer text has characters. -/
theorem editDistance_le_max_length (a b : String) : editDistance a b ≤ max a.length b.length := by
  rw [← String.length_toList, ← String.length_toList]
  exact (isEditDistance_editDistance a b).2 (Aligned.max_length a.toList b.toList).edits

/-- Two texts without an edit between them are the same. -/
theorem eq_of_editDistance_eq_zero {a b : String} (h : editDistance a b = 0) : a = b := by
  have hedits : Edits 0 a.toList b.toList := h ▸ (isEditDistance_editDistance a b).1
  generalize ha : a.toList = as at hedits
  generalize hb : b.toList = bs at hedits
  cases hedits with
  | none _ => exact String.toList_inj.mp (ha.trans hb.symm)

end Text

end RollConditions
