/-
  Where a raw statement stands plays no part in how it is read.

  The readers are told the place of what they read, and a configuration reports an error by writing the
  place of the predicate in front of the error's own.  These are two ways of making the text of a place,
  and they differ: going down by a key writes a dot, unless the place is empty, while the prefix of a
  configuration is written as it is.  They come to the same text all the same.  A misfit inside a raw
  statement is reached by a key first (`head?_steps_ne_item`), so going down from a place that is not empty
  begins with a dot; and a prefix always stands before the position of a raw statement, whose text has a
  mark of its own.

    * `readAt_eq`             reading at a place is reading alone, with the error moved there;
    * `readAt_mapError_within`  a prefix written afterwards is a prefix passed down.
-/
import RollConditions.Config.Basic
import RollConditions.Proofs.ErrorPlace

namespace RollConditions

namespace Step

/-- The text of a place inside a statement, seen from the outside, where the statement itself stands at
    a place. -/
def inside (place path : String) : String :=
  if path = "" then place else if place = "" then path else place ++ "." ++ path

/-- Below a place that is not empty, a step with a key has its dot. -/
theorem foldl_extend_key {place : String} (h : place ≠ "") (keyword : Keyword) (steps : List Step) :
    (key keyword :: steps).foldl extend place = place ++ "." ++ text (key keyword :: steps) := by
  have hkey : extend "" (key keyword) = keyword.text := rfl
  have hbelow := toList_foldl_extend h (key keyword :: steps)
  have halone : (text (key keyword :: steps)).toList
      = keyword.text.toList ++ steps.flatMap added := by
    show ((steps.foldl extend (extend "" (key keyword)))).toList = _
    rw [hkey]
    exact toList_foldl_extend (key_ne_empty keyword) steps
  apply String.toList_inj.mp
  rw [hbelow, String.toList_append, String.toList_append, halone, List.flatMap_cons]
  simp [added]

/-- Steps that begin with a key, or no steps, lead from a place to what they lead to alone, seen from
    the outside. -/
theorem foldl_extend_eq_inside {steps : List Step} (h : ∀ position, steps.head? ≠ some (.item position))
    (place : String) : steps.foldl extend place = inside place (text steps) := by
  cases steps with
  | nil => rfl
  | cons step rest =>
    cases step with
    | item position => exact absurd rfl (h position)
    | key keyword =>
      have hpath : text (key keyword :: rest) ≠ "" := by
        intro hempty
        have hnil : (key keyword :: rest) = [] := text_injective hempty
        cases hnil
      rw [inside, if_neg hpath]
      by_cases hplace : place = ""
      · rw [if_pos hplace, hplace]
        rfl
      · rw [if_neg hplace]
        exact foldl_extend_key hplace keyword rest

/-- A prefix of the outer place is a prefix of the whole. -/
theorem append_inside (before : String) {place : String} (h : place ≠ "") (path : String) :
    before ++ inside place path = inside (before ++ place) path := by
  have hbefore : before ++ place ≠ "" := by
    intro hempty
    have hlist := congrArg String.toList hempty
    rw [String.toList_append] at hlist
    exact h (String.toList_eq_nil_iff.mp (List.append_eq_nil_iff.mp hlist).2)
  unfold inside
  by_cases hpath : path = ""
  · rw [if_pos hpath, if_pos hpath]
  · rw [if_neg hpath, if_neg hpath, if_neg h, if_neg hbefore, ← String.append_assoc,
      ← String.append_assoc]

end Step

/-- The error seen from the outside, where the statement that it is in stands at a place. -/
def StatementError.movedTo (place : String) (error : StatementError) : StatementError :=
  { error with path := Step.inside place error.path }

namespace Statement

/-! ## One raw statement -/

/-- What is at fault in a raw statement is not one of its items: a list is at fault as a whole, and what
    is no list has no items. -/
theorem head?_steps_ne_item {raw : Json} {steps : List Step} {defect : Defect} {value : Json}
    (reached : Step.followAll? raw steps = some value)
    (hreader : ∀ place, readAt place raw = .error ⟨steps.foldl Step.extend place, defect, value⟩) :
    ∀ position, steps.head? ≠ some (.item position) := by
  intro position hhead
  obtain ⟨rest, rfl⟩ : ∃ rest, steps = .item position :: rest := List.head?_eq_some_iff.mp hhead
  cases raw with
  | list items =>
    have hwhole : readAt "" (.list items) = .error ⟨"", .strayList, .list items⟩ := rfl
    have hpath : Step.text (.item position :: rest) = "" := by
      rw [hreader ""] at hwhole
      exact congrArg StatementError.path (Except.error.inj hwhole)
    have hnil : (.item position :: rest : List Step) = [] := Step.text_injective hpath
    cases hnil
  | _ => cases reached

/-- **Reading at a place is reading alone.**  The same statement is read, or the same value is refused for
    the same reason, at the place that it has seen from the outside. -/
theorem readAt_eq (place : String) (raw : Json) :
    readAt place raw = (read raw).mapError (StatementError.movedTo place) := by
  rw [read]
  rcases settled raw with ⟨statement, hreader⟩ | ⟨steps, defect, value, reached, hreader⟩
  · rw [hreader, hreader]
    rfl
  · have hsteps := head?_steps_ne_item reached hreader
    rw [hreader, hreader, Step.foldl_extend_eq_inside hsteps]
    rfl

theorem readAt_eq_ok_iff_read {place : String} {raw : Json} {statement : Statement} :
    readAt place raw = .ok statement ↔ read raw = .ok statement := by
  rw [readAt_eq, mapError_eq_ok_iff]

theorem readAt_eq_error_iff_read {place : String} {raw : Json} {error : StatementError} :
    readAt place raw = .error error ↔
      ∃ alone, read raw = .error alone ∧ alone.movedTo place = error := by
  rw [readAt_eq, mapError_eq_error_iff]

/-- A prefix that is written in front of the error afterwards might as well have been passed down, if it
    stands before a place that is not empty. -/
theorem readAt_mapError_within (before : String) {place : String} (h : place ≠ "") (raw : Json) :
    (readAt place raw).mapError (StatementError.within before) = readAt (before ++ place) raw := by
  rw [readAt_eq, readAt_eq]
  cases read raw with
  | ok statement => rfl
  | error alone =>
    show Except.error ((alone.movedTo place).within before) = Except.error (alone.movedTo (before ++ place))
    rw [StatementError.movedTo, StatementError.within, Step.append_inside before h]
    rfl

/-! ## The raw statements of a list -/

/-- Reading a list fails at the first of its items that cannot be read, with the error of reading that
    item at its position. -/
theorem readItemsAt_eq_error_iff {place : String} {position : Nat} {raws : List Json}
    {error : StatementError} :
    readItemsAt place position raws = .error error ↔
      ∃ index raw, raws[index]? = some raw ∧
        (∀ earlier ∈ raws.take index, ∃ statement, read earlier = .ok statement) ∧
        readAt (Step.extend place (.item (position + index))) raw = .error error := by
  induction raws generalizing position with
  | nil =>
    constructor
    · intro h
      cases h
    · rintro ⟨index, raw, hraw, -⟩
      cases hraw
  | cons first rest ih =>
    have hposition : ∀ index, position + (index + 1) = position + 1 + index := by
      intro index
      omega
    rw [readItemsAt, bind_eq_error_iff]
    constructor
    · rintro (hfirst | ⟨statement, hfirst, hrest⟩)
      · exact ⟨0, first, rfl, fun earlier hearlier => absurd hearlier List.not_mem_nil, hfirst⟩
      · rcases bind_eq_error_iff.mp hrest with hrest | ⟨items, -, hitems⟩
        · obtain ⟨index, raw, hraw, hearlier, herror⟩ := ih.mp hrest
          rw [← hposition] at herror
          refine ⟨index + 1, raw, hraw, ?_, herror⟩
          rw [List.take_succ_cons]
          exact List.forall_mem_cons.mpr ⟨⟨statement, readAt_eq_ok_iff_read.mp hfirst⟩, hearlier⟩
        · cases hitems
    · rintro ⟨index, raw, hraw, hearlier, herror⟩
      cases index with
      | zero =>
        obtain rfl : first = raw := Option.some.inj hraw
        exact Or.inl herror
      | succ index =>
        -- the first item is one of those before, so it can be read
        rw [List.take_succ_cons] at hearlier
        obtain ⟨⟨statement, hfirst⟩, hothers⟩ := List.forall_mem_cons.mp hearlier
        rw [hposition] at herror
        refine Or.inr ⟨statement, readAt_eq_ok_iff_read.mpr hfirst, ?_⟩
        exact bind_eq_error_iff.mpr (Or.inl (ih.mpr ⟨index, raw, hraw, hothers, herror⟩))

end Statement

/-! ## Predicates in a configuration -/

namespace Config

theorem readPredicate_eq_ok_iff {name : String} {raw : Json} {predicate : Predicate} :
    readPredicate name raw = .ok predicate ↔ Predicate.read raw = .ok predicate := by
  rw [readPredicate, mapError_eq_ok_iff]

/-- A raw predicate of a configuration fails at its first raw statement that cannot be read, just as if
    that were read where it stands. -/
theorem readPredicate_eq_error_iff {name : String} {raw : Json} {error : StatementError} :
    readPredicate name raw = .error error ↔
      ∃ index element, (Predicate.rawStatements raw)[index]? = some element ∧
        (∀ earlier ∈ (Predicate.rawStatements raw).take index,
          ∃ statement, Statement.read earlier = .ok statement) ∧
        Statement.readAt (predicatePlace name ++ "[" ++ toString index ++ "]") element
          = .error error := by
  have hplace : ∀ index, predicatePlace name ++ Step.extend "" (.item (0 + index))
      = predicatePlace name ++ "[" ++ toString index ++ "]" := by
    intro index
    rw [Nat.zero_add, Step.extend, String.empty_append, String.append_assoc, String.append_assoc,
      String.append_assoc]
  have hwithin : ∀ index element,
      Statement.readAt (predicatePlace name ++ "[" ++ toString index ++ "]") element
        = (Statement.readAt (Step.extend "" (.item (0 + index))) element).mapError
            (StatementError.within (predicatePlace name)) := by
    intro index element
    rw [Statement.readAt_mapError_within _ (Step.extend_ne_empty "" _), hplace]
  rw [readPredicate, mapError_eq_error_iff, Predicate.read_eq, Predicate.ofRawStatements]
  simp only [map_eq_error_iff, Statement.readItemsAt_eq_error_iff, hwithin, mapError_eq_error_iff]
  constructor
  · rintro ⟨cause, ⟨index, element, helement, hearlier, hcause⟩, rfl⟩
    exact ⟨index, element, helement, hearlier, cause, hcause, rfl⟩
  · rintro ⟨index, element, helement, hearlier, cause, hcause, rfl⟩
    exact ⟨cause, ⟨index, element, helement, hearlier, hcause⟩, rfl⟩

theorem predicate?_eq_some_iff {config : Config} {name : String}
    {result : Except StatementError Predicate} :
    config.predicate? name = some result ↔
      ∃ raw, config.predicates.get? name = some raw ∧ readPredicate name raw = result := by
  rw [predicate?, Option.map_eq_some_iff]

end Config

/-- **Moving a raw statement only moves its errors.**

    At any place the same statement is read as alone, and what is refused is refused with the same defect,
    hence for the same reason, and with the same value.  The path of the error is that of the place if the
    whole value is at fault, the path that it has alone if the place is empty, and otherwise both with a dot
    between them.

    So it does not matter whether the place of a named predicate is passed down or is written in front of
    its errors.  A configuration has a predicate under a name if the raw value there is one, and reports,
    of the first raw statement that cannot be read, exactly the error of reading it where it stands; this
    holds of every name, also of one with dots and brackets in it. -/
theorem relocation_moves_only_errors :
    (∀ place raw statement,
      Statement.readAt place raw = .ok statement ↔ Statement.read raw = .ok statement) ∧
    (∀ place raw error, Statement.readAt place raw = .error error ↔
      ∃ alone, Statement.read raw = .error alone ∧
        error = { alone with
          path :=
            if alone.path = "" then place
            else if place = "" then alone.path
            else place ++ "." ++ alone.path }) ∧
    (∀ (config : Config) (name : String),
      config.predicate? name = none ↔ config.predicates.get? name = none) ∧
    (∀ (config : Config) (name : String) (predicate : Predicate),
      config.predicate? name = some (.ok predicate) ↔
        ∃ raw, config.predicates.get? name = some raw ∧ Predicate.read raw = .ok predicate) ∧
    (∀ (config : Config) (name : String) (error : StatementError),
      config.predicate? name = some (.error error) ↔
        ∃ raw index element, config.predicates.get? name = some raw ∧
          (Predicate.rawStatements raw)[index]? = some element ∧
          (∀ earlier ∈ (Predicate.rawStatements raw).take index,
            ∃ statement, Statement.read earlier = .ok statement) ∧
          Statement.readAt ("predicates." ++ name ++ "[" ++ toString index ++ "]") element
            = .error error) := by
  refine ⟨fun _ _ _ => Statement.readAt_eq_ok_iff_read, ?_, ?_, ?_, ?_⟩
  · intro place raw error
    rw [Statement.readAt_eq_error_iff_read]
    constructor
    · rintro ⟨alone, halone, rfl⟩
      exact ⟨alone, halone, rfl⟩
    · rintro ⟨alone, halone, rfl⟩
      exact ⟨alone, halone, rfl⟩
  · intro config name
    rw [Config.predicate?, Option.map_eq_none_iff]
  · intro config name predicate
    rw [Config.predicate?_eq_some_iff]
    simp only [Config.readPredicate_eq_ok_iff]
  · intro config name error
    rw [Config.predicate?_eq_some_iff]
    simp only [Config.readPredicate_eq_error_iff]
    constructor
    · rintro ⟨raw, hraw, index, element, helement, hearlier, herror⟩
      exact ⟨raw, index, element, hraw, helement, hearlier, herror⟩
    · rintro ⟨raw, index, element, hraw, helement, hearlier, herror⟩
      exact ⟨raw, hraw, index, element, helement, hearlier, herror⟩

end RollConditions
