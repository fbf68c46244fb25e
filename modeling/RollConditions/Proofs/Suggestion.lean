/-
  Which key is suggested for one that is not known.

  An object whose only key is not known is refused, and the message may ask whether another key was meant.
  That key is the nearest one by edit distance, the first of those equally near in the order of the list of
  keys (`IsFirstNearest`), and it is asked for if its distance is at most two and less than the number of
  bytes of the unknown key (`suggestion?_eq_some_iff`).  Both bounds on the distance let through every nearer
  key as well, so leaving out the keys that are too far never leaves out the nearest one.

  Bytes are not characters.  For a key of ASCII characters the second bound says that fewer edits are
  needed than it has characters, so that one of them is kept.  A short key of characters with several bytes
  passes the bound and may lose all of them.
-/
import RollConditions.Proofs.EditDistance
import RollConditions.Proofs.Shape

namespace RollConditions

namespace Text

/-! ## The first of the nearest -/

/-- The search, without the pairs of candidates and distances. -/
theorem nearest?_eq_bind_find? (text : String) (isNear : Nat → Bool) (candidates : List String) :
    nearest? text isNear candidates
      = ((candidates.map (editDistance text)).filter isNear).min?.bind (fun least =>
          candidates.find? (fun candidate =>
            isNear (editDistance text candidate) && editDistance text candidate == least)) := by
  have hdistances : ((candidates.map (fun candidate => (candidate, editDistance text candidate))).filter
      (fun entry => isNear entry.2)).map (·.2) = (candidates.map (editDistance text)).filter isNear := by
    simp [List.filter_map, Function.comp_def]
  simp only [nearest?, hdistances, List.find?_filter, List.find?_map, Option.map_map, Function.comp_def,
    Option.map_id', Bool.decide_and, Bool.decide_eq_true]

/-- **The first of the nearest** is found: those before it are farther, those behind it no nearer. -/
theorem nearest?_eq_some_iff {text found : String} {isNear : Nat → Bool} {candidates : List String} :
    nearest? text isNear candidates = some found ↔
      isNear (editDistance text found) = true ∧ ∃ before after, candidates = before ++ found :: after ∧
        (∀ other ∈ before, isNear (editDistance text other) = true →
          editDistance text found < editDistance text other) ∧
        (∀ other ∈ after, isNear (editDistance text other) = true →
          editDistance text found ≤ editDistance text other) := by
  rw [nearest?_eq_bind_find?, Option.bind_eq_some_iff]
  constructor
  · rintro ⟨least, hleast, hfind⟩
    obtain ⟨_, hle⟩ := List.min?_eq_some_iff.mp hleast
    obtain ⟨hfound, before, after, hsplit, hbefore⟩ := List.find?_eq_some_iff_append.mp hfind
    obtain ⟨hnear, hdistance⟩ := Bool.and_eq_true_iff.mp hfound
    obtain rfl := beq_iff_eq.mp hdistance
    have hall : ∀ other ∈ candidates, isNear (editDistance text other) = true →
        editDistance text found ≤ editDistance text other := by
      intro other hother hnear
      exact hle _ (List.mem_filter.mpr ⟨List.mem_map_of_mem hother, hnear⟩)
    refine ⟨hnear, before, after, hsplit, ?_, ?_⟩
    · -- one as near would have been found first
      intro other hother hnear
      have hne : editDistance text other ≠ editDistance text found := by
        intro heq
        have hnot := hbefore other hother
        rw [heq, hfound] at hnot
        exact absurd hnot (by decide)
      have hle := hall other (by rw [hsplit]; exact List.mem_append_left _ hother) hnear
      omega
    · intro other hother hnear
      exact hall other (by rw [hsplit]; simp [hother]) hnear
  · rintro ⟨hnear, before, after, rfl, hbefore, hafter⟩
    refine ⟨editDistance text found, List.min?_eq_some_iff.mpr ⟨?_, ?_⟩,
      List.find?_eq_some_iff_append.mpr ⟨by simp [hnear], before, after, rfl, ?_⟩⟩
    · exact List.mem_filter.mpr ⟨List.mem_map_of_mem (by simp), hnear⟩
    · intro distance hdistance
      obtain ⟨hdistance, hnear⟩ := List.mem_filter.mp hdistance
      obtain ⟨other, hother, rfl⟩ := List.mem_map.mp hdistance
      rcases List.mem_append.mp hother with hother | hother
      · exact Nat.le_of_lt (hbefore other hother hnear)
      · rcases List.mem_cons.mp hother with rfl | hother
        · exact Nat.le_refl _
        · exact hafter other hother hnear
    · intro other hother
      rw [Bool.not_eq_true', Bool.and_eq_false_imp]
      intro hnear
      have hlt := hbefore other hother hnear
      exact beq_eq_false_iff_ne.mpr (Nat.ne_of_gt hlt)

/-- Something is found if one of the candidates passes the test. -/
theorem exists_nearest?_eq_some {text candidate : String} {isNear : Nat → Bool} {candidates : List String}
    (hmem : candidate ∈ candidates) (hnear : isNear (editDistance text candidate) = true) :
    ∃ found, nearest? text isNear candidates = some found := by
  have hne : (candidates.map (editDistance text)).filter isNear ≠ [] :=
    List.ne_nil_of_mem (List.mem_filter.mpr ⟨List.mem_map_of_mem hmem, hnear⟩)
  obtain ⟨least, hleast⟩ := Option.ne_none_iff_exists'.mp (mt List.min?_eq_none_iff.mp hne)
  obtain ⟨hdistance, hnear⟩ := List.mem_filter.mp (List.min?_eq_some_iff.mp hleast).1
  obtain ⟨other, hother, rfl⟩ := List.mem_map.mp hdistance
  rw [nearest?_eq_bind_find?, hleast, Option.bind_some, ← Option.isSome_iff_exists]
  exact List.find?_isSome.mpr ⟨other, hother, by simp [hnear]⟩

end Text

/-! ## The first of the nearest keys -/

namespace Keyword

/-- No raw statement has the key. -/
def IsUnknown (key : String) : Prop := ∀ keyword : Keyword, key ≠ keyword.text

/-- A keyword at a distance from a text such that no other is nearer and none as near is listed before. -/
structure IsFirstNearest (key : String) (keyword : Keyword) (n : Nat) : Prop where
  /-- The distance of the keyword. -/
  distance : Text.IsEditDistance key keyword.text n
  /-- No keyword is nearer. -/
  nearest : ∀ (other : Keyword) (m : Nat), Text.IsEditDistance key other.text m → n ≤ m
  /-- Keywords as near are listed later. -/
  first : ∀ other : Keyword, Text.IsEditDistance key other.text n →
    every.idxOf keyword ≤ every.idxOf other

instance (key : String) : Decidable (IsUnknown key) :=
  decidable_of_iff (∀ keyword ∈ every, key ≠ keyword.text)
    ⟨fun h keyword => h keyword (mem_every keyword), fun h keyword _ => h keyword⟩

/-- The first of the nearest by a look at every keyword. -/
theorem isFirstNearest_iff {key : String} {keyword : Keyword} {n : Nat} :
    IsFirstNearest key keyword n ↔ Text.editDistance key keyword.text = n ∧
      ∀ other ∈ every, n ≤ Text.editDistance key other.text ∧
        (Text.editDistance key other.text = n → every.idxOf keyword ≤ every.idxOf other) := by
  simp only [← Text.isEditDistance_iff]
  constructor
  · rintro ⟨hdistance, hnearest, hfirst⟩
    exact ⟨hdistance, fun other _ =>
      ⟨hnearest other _ (Text.isEditDistance_editDistance _ _), hfirst other⟩⟩
  · rintro ⟨hdistance, hall⟩
    refine ⟨hdistance, ?_, fun other => (hall other (mem_every other)).2⟩
    intro other m hm
    rw [← Text.isEditDistance_iff.mp hm]
    exact (hall other (mem_every other)).1

instance (key : String) (keyword : Keyword) (n : Nat) : Decidable (IsFirstNearest key keyword n) :=
  decidable_of_iff _ isFirstNearest_iff.symm

/-- Before a keyword stand those with a lower position. -/
theorem mem_before_iff {keyword other : Keyword} {before after : List Keyword}
    (h : every = before ++ keyword :: after) :
    other ∈ before ↔ every.idxOf other < every.idxOf keyword := by
  have hnodup : every.Nodup := by decide
  rw [h, List.nodup_middle, List.nodup_cons, List.mem_append, not_or] at hnodup
  have hkeyword : every.idxOf keyword = before.length := by
    rw [h, List.idxOf_append_of_notMem hnodup.1.1, List.idxOf_cons_self, Nat.add_zero]
  rw [hkeyword, h]
  by_cases hother : other ∈ before
  · rw [List.idxOf_append_of_mem hother]
    exact iff_of_true hother (List.idxOf_lt_length_of_mem hother)
  · rw [List.idxOf_append_of_notMem hother]
    exact iff_of_false hother (by omega)

/-- The first of the nearest, said of the keywords listed before it and behind it. -/
theorem isFirstNearest_iff_of_split {key : String} {keyword : Keyword} {n : Nat}
    {before after : List Keyword} (h : every = before ++ keyword :: after) :
    IsFirstNearest key keyword n ↔ Text.editDistance key keyword.text = n ∧
      (∀ other ∈ before, n < Text.editDistance key other.text) ∧
      (∀ other ∈ after, n ≤ Text.editDistance key other.text) := by
  constructor
  · rintro ⟨hdistance, hnearest, hfirst⟩
    have hle : ∀ other : Keyword, n ≤ Text.editDistance key other.text :=
      fun other => hnearest other _ (Text.isEditDistance_editDistance _ _)
    refine ⟨Text.isEditDistance_iff.mp hdistance, fun other hother => ?_, fun other _ => hle other⟩
    refine Nat.lt_of_le_of_ne (hle other) (fun heq => ?_)
    -- one as near would stand behind
    have hposition := (mem_before_iff h).mp hother
    have hlater := hfirst other (Text.isEditDistance_iff.mpr heq.symm)
    omega
  · rintro ⟨hdistance, hbefore, hafter⟩
    refine ⟨Text.isEditDistance_iff.mpr hdistance, fun other m hm => ?_, fun other hother => ?_⟩
    · rw [← Text.isEditDistance_iff.mp hm]
      have hmem := mem_every other
      rw [h, List.mem_append, List.mem_cons] at hmem
      rcases hmem with hmem | rfl | hmem
      · exact Nat.le_of_lt (hbefore other hmem)
      · exact Nat.le_of_eq hdistance.symm
      · exact hafter other hmem
    · have hnot : other ∉ before := by
        intro hmem
        have hlt := hbefore other hmem
        rw [Text.isEditDistance_iff.mp hother] at hlt
        exact Nat.lt_irrefl n hlt
      rw [mem_before_iff h] at hnot
      omega

/-- **What is suggested.**  The first of the nearest keywords, if its distance is at most two and less than
    the number of bytes of the text. -/
theorem suggestion?_eq_some_iff {key suggested : String} :
    suggestion? key = some suggested ↔
      ∃ keyword n, suggested = keyword.text ∧ IsFirstNearest key keyword n ∧ n ≤ 2 ∧
        n < key.utf8ByteSize := by
  rw [suggestion?, Text.nearest?_eq_some_iff]
  simp only [Bool.and_eq_true, decide_eq_true_eq]
  simp only [nearby]
  constructor
  · rintro ⟨⟨hnearby, hbytes⟩, before, after, hsplit, hbefore, hafter⟩
    obtain ⟨first, rest, hevery, rfl, hrest⟩ := List.map_eq_append_iff.mp hsplit
    obtain ⟨keyword, last, rfl, rfl, rfl⟩ := List.map_eq_cons_iff.mp hrest
    refine ⟨keyword, _, rfl, (isFirstNearest_iff_of_split hevery).mpr ⟨rfl, ?_, ?_⟩, hnearby, hbytes⟩
    · -- what does not pass the test is farther than what does
      intro other hother
      have hfarther := hbefore other.text (List.mem_map_of_mem hother)
      omega
    · intro other hother
      have hnoNearer := hafter other.text (List.mem_map_of_mem hother)
      omega
  · rintro ⟨keyword, n, rfl, hfirst, hnearby, hbytes⟩
    obtain ⟨before, after, hevery⟩ := List.append_of_mem (mem_every keyword)
    obtain ⟨rfl, hbefore, hafter⟩ := (isFirstNearest_iff_of_split hevery).mp hfirst
    refine ⟨⟨hnearby, hbytes⟩, before.map text, after.map text, ?_, ?_, ?_⟩
    · rw [hevery, List.map_append, List.map_cons]
    · exact List.forall_mem_map.mpr (fun other hother _ => hbefore other hother)
    · exact List.forall_mem_map.mpr (fun other hother _ => hafter other hother)

/-- Something is suggested if one keyword is near enough. -/
theorem exists_suggestion?_eq_some {key : String} {keyword : Keyword} {n : Nat}
    (h : Text.IsEditDistance key keyword.text n) (hnearby : n ≤ 2) (hbytes : n < key.utf8ByteSize) :
    ∃ suggested, suggestion? key = some suggested := by
  obtain rfl := Text.isEditDistance_iff.mp h
  exact Text.exists_nearest?_eq_some (List.mem_map_of_mem (mem_every keyword))
    (by simp [nearby, hnearby, hbytes])

end Keyword

/-! ## The message about an unknown key -/

namespace StatementError

/-- The reason of an error asks whether another key was meant. -/
def Suggests (error : StatementError) (key suggested : String) : Prop :=
  error.reason = "unknown key '" ++ key ++ "', did you mean '" ++ suggested ++ "'?"

/-- The message shows what is suggested. -/
theorem suggests_iff {place key suggested : String} {value : Json} :
    Suggests ⟨place, .unknownKey key, value⟩ key suggested ↔ Keyword.suggestion? key = some suggested := by
  rw [Suggests, reason]
  -- the definition itself, as making the equations for every wording takes long
  delta Defect.reason
  dsimp only
  cases Keyword.suggestion? key with
  | none => simp [Defect.quotedKey, ← String.toList_inj]
  | some other => simp [Defect.quotedKey, ← String.toList_inj]

end StatementError

namespace Statement

/-- An unknown key alone in an object is refused at the place of the object. -/
theorem readAt_unknown (place : String) {key : String} (value : Json) (h : Keyword.IsUnknown key) :
    readAt place (.object [(key, value)])
      = .error ⟨place, .unknownKey key, .object [(key, value)]⟩ := by
  have hnone : Keyword.ofText? key = none := by
    rw [Option.eq_none_iff_forall_ne_some]
    exact fun keyword hkeyword => h keyword (Keyword.ofText?_eq_some_iff.mp hkeyword)
  have hhalf : isHalf key = false := by
    rw [isHalf, Bool.or_eq_false_iff, beq_eq_false_iff_ne, beq_eq_false_iff_ne]
    exact ⟨h .condition, h .conclusion⟩
  rw [readAt, hnone]
  simp [fieldsDefect, hhalf]

end Statement

/-- **The suggested key is the first of the nearest.**

    An object with one key that no statement has is refused, wherever it stands.  The message suggests a
    key exactly if that key is the first of the nearest ones, its distance is at most two, and its distance
    is less than the number of bytes of the unknown key.  So a key one edit away makes a suggestion,
    unless the unknown key has one byte only. -/
theorem suggested_key_is_first_nearest (place : String) {key : String} (value : Json)
    (h : Keyword.IsUnknown key) :
    ∃ error, Statement.readAt place (.object [(key, value)]) = .error error ∧
      error.path = place ∧ error.value = .object [(key, value)] ∧
      (∀ suggested, error.Suggests key suggested ↔
        ∃ keyword n, suggested = keyword.text ∧ Keyword.IsFirstNearest key keyword n ∧ n ≤ 2 ∧
          n < key.utf8ByteSize) ∧
      (2 ≤ key.utf8ByteSize → (∃ keyword : Keyword, Text.IsEditDistance key keyword.text 1) →
        ∃ suggested, error.Suggests key suggested) := by
  refine ⟨_, Statement.readAt_unknown place value h, rfl, rfl, ?_, ?_⟩
  · intro suggested
    rw [StatementError.suggests_iff, Keyword.suggestion?_eq_some_iff]
  · rintro hbytes ⟨keyword, hdistance⟩
    obtain ⟨suggested, hsuggested⟩ :=
      Keyword.exists_suggestion?_eq_some hdistance (by decide) hbytes
    exact ⟨suggested, StatementError.suggests_iff.mpr hsuggested⟩

/-- Of two keys one edit away the one that is listed first is suggested. -/
theorem or_is_suggested_before_xor :
    Keyword.IsUnknown "xr" ∧ Text.IsEditDistance "xr" "or" 1 ∧ Text.IsEditDistance "xr" "xor" 1 ∧
    ∃ error, Statement.readAt "[0].not" (.object [("xr", .list [])]) = .error error ∧
      error.Suggests "xr" "or" ∧ ¬ error.Suggests "xr" "xor" := by
  have hunknown : Keyword.IsUnknown "xr" := by decide
  refine ⟨hunknown, by decide, by decide, ?_⟩
  obtain ⟨error, herror, _, _, hsuggests, _⟩ :=
    suggested_key_is_first_nearest "[0].not" (.list []) hunknown
  refine ⟨error, herror, (hsuggests "or").mpr ⟨.group .any, 1, rfl, by decide, by decide, by decide⟩, ?_⟩
  intro hxor
  obtain ⟨keyword, n, htext, hfirst, _⟩ := (hsuggests "xor").mp hxor
  obtain rfl : keyword = .group .one := Keyword.text_inj htext.symm
  obtain rfl := Text.isEditDistance_iff.mp hfirst.distance
  exact absurd hfirst (by decide)

/-! ## Suggestions that keep nothing -/

namespace Keyword

/-- A key is made of characters of one byte, and of two of them at least. -/
theorem utf8Size_of_mem_text (keyword : Keyword) : ∀ c ∈ keyword.text.toList, c.utf8Size = 1 := by
  have hevery : ∀ listed ∈ every, listed.text.toList.all (fun c => c.utf8Size == 1) = true := by decide
  simpa using hevery keyword (mem_every keyword)

theorem two_le_length_text (keyword : Keyword) : 2 ≤ keyword.text.length := by
  have hevery : ∀ listed ∈ every, 2 ≤ listed.text.length := by decide
  exact hevery keyword (mem_every keyword)

variable {key : String}

theorem IsUnknown.not_isEditDistance_zero (h : IsUnknown key) (keyword : Keyword) :
    ¬ Text.IsEditDistance key keyword.text 0 :=
  fun hzero => h keyword (Text.eq_of_editDistance_eq_zero (Text.isEditDistance_iff.mp hzero))

/-- One edit away from a key, a text of one character is one byte. -/
theorem utf8ByteSize_of_isEditDistance_one {keyword : Keyword} (hlength : key.length ≤ 1)
    (h : Text.IsEditDistance key keyword.text 1) : key.utf8ByteSize = 1 := by
  have hdistance := Text.isEditDistance_iff.mp h
  have hlt : Text.editDistance key keyword.text < keyword.text.length := by
    have := two_le_length_text keyword
    omega
  -- the character that is kept is the whole text
  obtain ⟨c, hkey, htext⟩ := Text.exists_kept_of_editDistance_lt (Or.inr hlt)
  have hsingle : key.toList = [c] := by
    rw [← String.length_toList] at hlength
    match hlist : key.toList, hkey, hlength with
    | [d], hkey, _ => rw [List.mem_singleton.mp hkey]
  rw [← String.ofList_toList (s := key), hsingle, ← String.singleton_eq_ofList,
    String.utf8ByteSize_singleton, utf8Size_of_mem_text keyword c htext]

end Keyword

/-- **When a suggestion costs as many edits as the key has characters.**

    That is so for unknown keys of one or two characters that have three bytes or more, and so at least
    one character that no key has, if no key is one edit away.  The nearest key is then two edits away,
    which is less than the number of bytes but not than that of characters. -/
theorem suggestion_costs_whole_key_iff (place : String) {key : String} (value : Json)
    (h : Keyword.IsUnknown key) :
    (∃ error suggested n, Statement.readAt place (.object [(key, value)]) = .error error ∧
      error.Suggests key suggested ∧ Text.IsEditDistance key suggested n ∧ key.length ≤ n) ↔
    key.length ≤ 2 ∧ 3 ≤ key.utf8ByteSize ∧
      ∀ keyword : Keyword, ¬ Text.IsEditDistance key keyword.text 1 := by
  constructor
  · rintro ⟨error, suggested, n, herror, hsuggests, hdistance, hlength⟩
    rw [Statement.readAt_unknown place value h, Except.error.injEq] at herror
    subst herror
    obtain ⟨keyword, m, rfl, hfirst, hnearby, hbytes⟩ :=
      Keyword.suggestion?_eq_some_iff.mp (StatementError.suggests_iff.mp hsuggests)
    obtain rfl : n = m := hdistance.unique hfirst.distance
    have hzero : n ≠ 0 := fun heq => h.not_isEditDistance_zero keyword (heq ▸ hdistance)
    have hone : n ≠ 1 := by
      rintro rfl
      have := Keyword.utf8ByteSize_of_isEditDistance_one hlength hdistance
      omega
    refine ⟨by omega, by omega, ?_⟩
    intro other hother
    have := hfirst.nearest other 1 hother
    omega
  · rintro ⟨hlength, hbytes, hnot⟩
    -- a key of two characters is two edits away at most
    have hor : Text.editDistance key (Keyword.group .any).text ≤ 2 :=
      Nat.le_trans (Text.editDistance_le_max_length key _) (max_le hlength (by decide))
    obtain ⟨suggested, hsuggested⟩ := Keyword.exists_suggestion?_eq_some
      (Text.isEditDistance_editDistance key (Keyword.group .any).text) hor (by omega)
    obtain ⟨keyword, n, rfl, hfirst, _, _⟩ := Keyword.suggestion?_eq_some_iff.mp hsuggested
    refine ⟨_, keyword.text, n, Statement.readAt_unknown place value h,
      StatementError.suggests_iff.mpr hsuggested, hfirst.distance, ?_⟩
    have hzero : n ≠ 0 := fun heq => h.not_isEditDistance_zero keyword (heq ▸ hfirst.distance)
    have hone : n ≠ 1 := fun heq => hnot keyword (heq ▸ hfirst.distance)
    omega

/-- Two characters of two bytes each, and two edits. -/
theorem two_accented_letters_cost_two_edits :
    Keyword.IsUnknown "éé" ∧
    ∃ error suggested n, Statement.readAt "[0]" (.object [("éé", .null)]) = .error error ∧
      error.Suggests "éé" suggested ∧ Text.IsEditDistance "éé" suggested n ∧ "éé".length ≤ n := by
  have hunknown : Keyword.IsUnknown "éé" := by decide
  have hfar : ∀ listed ∈ Keyword.every, ¬ Text.IsEditDistance "éé" listed.text 1 := by decide
  exact ⟨hunknown, (suggestion_costs_whole_key_iff "[0]" .null hunknown).mpr
    ⟨by decide, by decide, fun keyword => hfar keyword (Keyword.mem_every keyword)⟩⟩

/-- **One character of three bytes is given up whole.**  It is two edits away from the key that is
    suggested for it, and has no character in common with it. -/
theorem foreign_character_is_given_up :
    Keyword.IsUnknown "日" ∧
    ∃ error, Statement.read (.object [("日", .text "x")]) = .error error ∧
      error.Suggests "日" "or" ∧ Text.IsEditDistance "日" "or" 2 ∧ "日".length = 1 ∧
      ∀ c ∈ "日".toList, c ∉ "or".toList := by
  have hunknown : Keyword.IsUnknown "日" := by decide
  refine ⟨hunknown, _, Statement.readAt_unknown "" _ hunknown, ?_, by decide, by decide, ?_⟩
  · rw [StatementError.suggests_iff, Keyword.suggestion?_eq_some_iff]
    exact ⟨.group .any, 2, rfl, by decide, by decide, by decide⟩
  · simp

end RollConditions
