/-
  The text of a place can be read back.

  A step adds a mark and the text of a key to the text of a place, or a position between two marks
  (`added`).  Neither a key nor a position has a mark in it, so the marks show where each step ends.  The
  one irregularity is that the key at the very beginning goes without its dot; but a text that does not
  begin with a mark begins with such a key, and the dot can be put back (`withDot`).  So two different
  places never have the same text.
-/
import Mathlib.Data.List.Basic
import RollConditions.Statement.Keyword

namespace RollConditions

namespace Step

/-- A character that separates the steps of a place. -/
def isMark (c : Char) : Bool := c == '.' || c == '[' || c == ']'

/-- What a step adds to the text of a place that is not empty. -/
def added : Step → List Char
  | key keyword => '.' :: keyword.text.toList
  | item position => '[' :: ((toString position).toList ++ [']'])

/-- The text of a place with the dot that its first key goes without. -/
def withDot : List Char → List Char
  | [] => []
  | c :: rest => if isMark c then c :: rest else '.' :: c :: rest

/-! ## Keys and positions have no marks -/

/-- No key of a statement has a mark in it. -/
theorem isMark_of_mem_key (keyword : Keyword) : ∀ c ∈ keyword.text.toList, isMark c = false := by
  have hevery : ∀ listed ∈ Keyword.every, listed.text.toList.any isMark = false := by decide
  simpa using hevery keyword (Keyword.mem_every keyword)

/-- No key of a statement is empty, so a first key without its dot still shows. -/
theorem key_ne_empty (keyword : Keyword) : keyword.text ≠ "" := by
  have hevery : ∀ listed ∈ Keyword.every, listed.text ≠ "" := by decide
  exact hevery keyword (Keyword.mem_every keyword)

/-- A digit is no mark. -/
theorem isMark_of_isDigit {c : Char} (h : c.isDigit = true) : isMark c = false := by
  rw [isMark, Bool.or_eq_false_iff, Bool.or_eq_false_iff]
  refine ⟨⟨?_, ?_⟩, ?_⟩ <;>
  · rw [beq_eq_false_iff_ne]
    rintro rfl
    exact absurd h (by decide)

/-- A position is written in digits. -/
theorem isMark_of_mem_position (position : Nat) :
    ∀ c ∈ (toString position).toList, isMark c = false := by
  intro c hc
  rw [Nat.toString_eq_repr, Nat.toList_repr] at hc
  exact isMark_of_isDigit (Nat.isDigit_of_mem_toDigits (by decide) (by decide) hc)

/-- A position is known by its digits. -/
theorem position_inj {a b : Nat} (h : (toString a).toList = (toString b).toList) : a = b := by
  rw [Nat.toString_eq_repr, Nat.toString_eq_repr, Nat.toList_repr, Nat.toList_repr] at h
  rw [← @Nat.ofDigitChars_ten_toDigits a, h, Nat.ofDigitChars_ten_toDigits]

/-! ## A place is what its steps add -/

/-- Behind a place that is not empty a step is written in full. -/
theorem toList_extend {place : String} (h : place ≠ "") (step : Step) :
    (extend place step).toList = place.toList ++ step.added := by
  cases step with
  | key keyword =>
    have hplace : place.isEmpty = false := by simpa using h
    rw [extend, hplace]
    simp [added]
  | item position => simp [extend, added]

/-- A place with a step in it is not empty. -/
theorem extend_ne_empty (place : String) (step : Step) : extend place step ≠ "" := by
  intro hempty
  -- at the very beginning the step goes without its dot, but what is left of it is not empty
  by_cases hplace : place = ""
  · subst hplace
    cases step with
    | key keyword => exact key_ne_empty keyword hempty
    | item position => simpa [extend] using congrArg String.toList hempty
  · have hlist := toList_extend hplace step
    rw [hempty] at hlist
    have hnil := List.append_eq_nil_iff.mp hlist.symm
    exact hplace (String.toList_eq_nil_iff.mp hnil.1)

/-- By induction on the steps; after each of them the place is not empty. -/
theorem toList_foldl_extend {place : String} (h : place ≠ "") (steps : List Step) :
    (steps.foldl extend place).toList = place.toList ++ steps.flatMap added := by
  induction steps generalizing place with
  | nil => simp
  | cons step rest ih =>
    rw [List.foldl_cons, ih (extend_ne_empty place step), toList_extend h, List.flatMap_cons,
      List.append_assoc]

example : text [.item 0, .key (.group .any), .item 2, .key .negation] = "[0].or[2].not" := by decide

/-- With the dot put back, the text of a place is what all its steps add. -/
theorem withDot_text (steps : List Step) : withDot (text steps).toList = steps.flatMap added := by
  cases steps with
  | nil => rfl
  | cons step rest =>
    have htext : (text (step :: rest)).toList = (extend "" step).toList ++ rest.flatMap added :=
      toList_foldl_extend (extend_ne_empty "" step) rest
    rw [htext, List.flatMap_cons]
    cases step with
    | key keyword =>
      -- the text begins with the key, whose first character is no mark
      show withDot (keyword.text.toList ++ _) = _
      cases hchars : keyword.text.toList with
      | nil => exact absurd (String.toList_eq_nil_iff.mp hchars) (key_ne_empty keyword)
      | cons c others =>
        have hmark : isMark c = false := isMark_of_mem_key keyword c (by simp [hchars])
        simp [withDot, added, hmark, hchars]
    | item position => simp [withDot, extend, added, isMark]

/-! ## What the steps add shows the steps -/

/-- Marks after words without marks show where the words end. -/
theorem append_inj_of_marks {a b x y : List Char}
    (ha : ∀ c ∈ a, isMark c = false) (hb : ∀ c ∈ b, isMark c = false)
    (hx : ∀ c ∈ x.head?, isMark c = true) (hy : ∀ c ∈ y.head?, isMark c = true)
    (h : a ++ x = b ++ y) : a = b ∧ x = y := by
  -- each word is read off again as what comes before the first mark
  have hword : ∀ {word rest : List Char}, (∀ c ∈ word, isMark c = false) →
      (∀ c ∈ rest.head?, isMark c = true) → (word ++ rest).takeWhile (fun c => !isMark c) = word := by
    intro word rest hword hrest
    rw [List.takeWhile_append_of_pos (by simpa using hword)]
    cases rest with
    | nil => simp
    | cons c others => simp [hrest c rfl]
  have heq : a = b := by rw [← hword ha hx, h, hword hb hy]
  subst heq
  exact ⟨rfl, List.append_cancel_left h⟩

/-- What steps add begins with a mark, if there are any steps. -/
theorem isMark_of_mem_head?_flatMap_added (steps : List Step) :
    ∀ c ∈ (steps.flatMap added).head?, isMark c = true := by
  cases steps with
  | nil => simp
  | cons step rest => cases step <;> simp [added, isMark]

/-- By induction on the steps: what is added first shows the first step, and where it ends. -/
theorem flatMap_added_injective : Function.Injective (fun steps : List Step => steps.flatMap added) := by
  intro steps others h
  induction steps generalizing others with
  | nil =>
    cases others with
    | nil => rfl
    | cons other rest => cases other <;> simp [added] at h
  | cons step rest ih =>
    cases others with
    | nil => cases step <;> simp [added] at h
    | cons other others =>
      have hhead := isMark_of_mem_head?_flatMap_added rest
      have hother := isMark_of_mem_head?_flatMap_added others
      cases step with
      | key keyword =>
        cases other with
        | key otherword =>
          -- both begin with a dot, and the keys end where the next mark stands
          simp only [List.flatMap_cons, added, List.cons_append, List.cons.injEq, true_and] at h
          obtain ⟨hkey, hrest⟩ := append_inj_of_marks (isMark_of_mem_key keyword)
            (isMark_of_mem_key otherword) hhead hother h
          rw [Keyword.text_inj (String.toList_inj.mp hkey), ih hrest]
        | item position => simp [added] at h
      | item position =>
        cases other with
        | key otherword => simp [added] at h
        | item otherposition =>
          -- both begin with a bracket, and the positions end at the closing one
          simp only [List.flatMap_cons, added, List.cons_append, List.append_assoc, List.nil_append,
            List.cons.injEq, true_and] at h
          obtain ⟨hposition, hrest⟩ := append_inj_of_marks (isMark_of_mem_position position)
            (isMark_of_mem_position otherposition) (by simp [isMark]) (by simp [isMark]) h
          rw [position_inj hposition, ih (List.cons.inj hrest).2]

/-- **A place is known by its text.** -/
theorem text_injective : Function.Injective text := by
  intro steps others h
  apply flatMap_added_injective
  show steps.flatMap added = others.flatMap added
  rw [← withDot_text, ← withDot_text, h]

end Step

end RollConditions
