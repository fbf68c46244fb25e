/-
  An error shows the value at its place.

  The readers pass the text of a place down by hand, and each branch that fails chooses a place and a
  value of its own.  `Settled` says that the two choices always fit: what a reader does with a value is
  settled before it is told the place, and if it fails, then it fails some steps inside the value, shows
  what those steps lead to, and adds those steps, and nothing else, to the place.  Every reader is settled,
  by induction over the shapes of raw statements; and since a place is known by its text, the text of an
  error leads to one value only.
-/
import RollConditions.Proofs.PlaceText
import RollConditions.Proofs.Shape

namespace RollConditions

/-- What a reader does with a value, the place aside: it returns the same result at every place, or it
    fails at the same steps inside the value, for the same reason and with what the steps lead to. -/
inductive Settled {α : Type} (reader : String → Except StatementError α) (raw : Json) : Prop where
  | accepted (result : α) (hreader : ∀ place, reader place = .ok result)
  | refused (steps : List Step) (defect : Defect) (value : Json)
    (reached : Step.followAll? raw steps = some value)
    (hreader : ∀ place, reader place = .error ⟨steps.foldl Step.extend place, defect, value⟩)

namespace Settled

variable {α β : Type} {reader : String → Except StatementError α} {raw : Json}

/-- The value itself is refused. -/
theorem here {defect : Defect} (h : ∀ place, reader place = .error ⟨place, defect, raw⟩) :
    Settled reader raw :=
  .refused [] defect raw rfl h

/-- A reader of a part of the value, one step further. -/
theorem step {part : Json} {step : Step} (h : Settled reader part)
    (hpart : step.follow? raw = some part) :
    Settled (fun place => reader (Step.extend place step)) raw := by
  cases h with
  | accepted result hreader => exact .accepted result (fun place => hreader _)
  | refused steps defect value reached hreader =>
    refine .refused (step :: steps) defect value ?_ (fun place => hreader _)
    rw [Step.followAll?, hpart]
    exact reached

/-- One reader after another. -/
theorem bind {next : α → String → Except StatementError β} (h : Settled reader raw)
    (hnext : ∀ result, Settled (next result) raw) :
    Settled (fun place => reader place >>= fun result => next result place) raw := by
  cases h with
  | accepted result hreader =>
    simp only [hreader]
    exact hnext result
  | refused steps defect value reached hreader =>
    refine .refused steps defect value reached (fun place => ?_)
    simp only [hreader]
    rfl

/-- A reader, and a function of its result. -/
theorem map {f : α → β} (h : Settled reader raw) : Settled (fun place => (reader place).map f) raw := by
  cases h with
  | accepted result hreader =>
    refine .accepted (f result) (fun place => ?_)
    rw [hreader]
    rfl
  | refused steps defect value reached hreader =>
    refine .refused steps defect value reached (fun place => ?_)
    rw [hreader]
    rfl

/-- What is the same at every place is settled alike. -/
theorem of_eq {other : String → Except StatementError α} (h : Settled other raw)
    (heq : ∀ place, reader place = other place) : Settled reader raw := by
  obtain rfl : reader = other := funext heq
  exact h

end Settled

/-! ## Steps into the shapes -/

/-- The key of an object with one field leads to its value. -/
theorem follow?_single (keyword : Keyword) (value : Json) :
    (Step.key keyword).follow? (.object [(keyword.text, value)]) = some value := by
  simp [Step.follow?, Json.field?]

/-- The key `if` leads to the condition, wherever it stands in the object. -/
theorem follow?_condition {fields : List (String × Json)} {a b : Json}
    (halves : fields.Perm [(Keyword.condition.text, a), (Keyword.conclusion.text, b)]) :
    (Step.key .condition).follow? (.object fields) = some a := by
  rcases List.perm_pair.mp halves with rfl | rfl <;> rfl

/-- The key `then` leads to the conclusion. -/
theorem follow?_conclusion {fields : List (String × Json)} {a b : Json}
    (halves : fields.Perm [(Keyword.condition.text, a), (Keyword.conclusion.text, b)]) :
    (Step.key .conclusion).follow? (.object fields) = some b := by
  rcases List.perm_pair.mp halves with rfl | rfl <;> rfl

/-! ## Every reader is settled -/

namespace Statement

/-- An operand is at fault itself or not at all. -/
theorem settled_operand (raw : Json) : Settled (fun place => Operand.readAt place raw) raw := by
  cases raw with
  | text path => exact .accepted (.field path) (fun _ => rfl)
  | number value => exact .accepted (.literal value.toBinary64) (fun _ => rfl)
  | _ => exact .here (fun _ => rfl)

/-- A comparison is at fault itself, or one of its two operands is, one step further in. -/
theorem settled_comparison (relation : Comparison) (raw : Json) :
    Settled (fun place => readComparisonAt place relation raw) raw := by
  by_cases hlist : ∃ items, raw = .list items
  · obtain ⟨items, rfl⟩ := hlist
    by_cases hlength : items.length = 2
    · obtain ⟨a, b, rfl⟩ := List.length_eq_two.mp hlength
      have hleft : Settled (fun place => Operand.readAt (Step.extend place (.item 0)) a) (.list [a, b]) :=
        (settled_operand a).step rfl
      have hright : Settled (fun place => Operand.readAt (Step.extend place (.item 1)) b) (.list [a, b]) :=
        (settled_operand b).step rfl
      exact hleft.bind (fun left => hright.bind (fun right =>
        .accepted (.comparison relation left right) (fun _ => rfl)))
    · exact .here (fun place => readComparisonAt_of_length_ne place relation hlength)
  · exact .here (fun place =>
      readComparisonAt_of_not_list place relation (fun items heq => hlist ⟨items, heq⟩))

/-- What a reader of items does, the place aside: the one that fails first, if any does, fails inside
    its own value, one step from the list. -/
theorem readItemsAt_cases {items : List Json}
    (ih : ∀ item ∈ items, Settled (fun place => readAt place item) item) (position : Nat) :
    (∃ result, ∀ place, readItemsAt place position items = .ok result) ∨
    (∃ index item steps defect value, items[index]? = some item ∧
      Step.followAll? item steps = some value ∧
      ∀ place, readItemsAt place position items =
        .error ⟨(.item (position + index) :: steps).foldl Step.extend place, defect, value⟩) := by
  induction items generalizing position with
  | nil => exact Or.inl ⟨[], fun _ => rfl⟩
  | cons item rest ihrest =>
    obtain ⟨hitem, hrest⟩ := List.forall_mem_cons.mp ih
    cases hitem with
    | refused steps defect value reached hreader =>
      refine Or.inr ⟨0, item, steps, defect, value, rfl, reached, fun place => ?_⟩
      rw [readItemsAt, hreader]
      rfl
    | accepted result hreader =>
      rcases ihrest hrest (position + 1) with ⟨results, hresults⟩ | hlater
      · refine Or.inl ⟨result :: results, fun place => ?_⟩
        rw [readItemsAt, hreader, hresults]
        rfl
      · -- a later item, one position further
        obtain ⟨index, later, steps, defect, value, hlater, reached, herror⟩ := hlater
        refine Or.inr ⟨index + 1, later, steps, defect, value, hlater, reached, fun place => ?_⟩
        have hposition : position + (index + 1) = position + 1 + index := by omega
        rw [readItemsAt, hreader, herror, hposition]
        rfl

/-- A list of items is settled if its items are. -/
theorem settled_items {items : List Json}
    (ih : ∀ item ∈ items, Settled (fun place => readAt place item) item) :
    Settled (fun place => readItemsAt place 0 items) (.list items) := by
  rcases readItemsAt_cases ih 0 with
    ⟨results, hresults⟩ | ⟨index, item, steps, defect, value, hitem, reached, herror⟩
  · exact .accepted results hresults
  · refine .refused (.item (0 + index) :: steps) defect value ?_ herror
    rw [Nat.zero_add, Step.followAll?, Step.follow?, hitem]
    exact reached

/-- **What is read from a value does not depend on its place, and what is refused is at the place that
    the error names.**  By induction over the shapes; each passes on the place of its part. -/
theorem settled (raw : Json) : Settled (fun place => readAt place raw) raw := by
  induction raw using raw_induction with
  | null | bool _ | number _ | list _ => exact .here (fun _ => rfl)
  | text fact => exact .accepted (.atom fact) (fun place => readAt_text place fact)
  | negation value ih =>
    have hpart := ih.step (follow?_single .negation value)
    exact hpart.map.of_eq (fun place => readAt_negation place value)
  | group connective items ih =>
    have hpart := (settled_items ih).step (follow?_single (.group connective) (.list items))
    exact hpart.map.of_eq (fun place => readAt_group place connective items)
  | groupOfOther connective value notList =>
    -- what is no list is at fault itself, one step down
    refine .refused [.key (.group connective)] (.notItems connective) value ?_
      (fun place => readAt_group_of_not_list place connective notList)
    rw [Step.followAll?, follow?_single]
    rfl
  | comparison relation value =>
    have hpart := (settled_comparison relation value).step (follow?_single (.comparison relation) value)
    exact hpart.of_eq (fun place => readAt_comparison place relation value)
  | implication fields a b halves iha ihb =>
    have hcondition := iha.step (follow?_condition halves)
    have hconclusion := ihb.step (follow?_conclusion halves)
    have hboth := hcondition.bind (fun condition => hconclusion.bind (fun conclusion =>
      .accepted (Statement.implication condition conclusion) (fun _ => rfl)))
    exact hboth.of_eq (fun place => readAt_implication place halves)
  | misshapen fields keys => exact .here (fun place => readAt_misshapen place keys)

end Statement

/-! ## The place of an error -/

namespace Predicate

/-- An error in a predicate is the error of one of its raw statements, below the position of that. -/
theorem exists_of_read_eq_error {raw : Json} {error : StatementError} (h : read raw = .error error) :
    ∃ index statement steps, (rawStatements raw)[index]? = some statement ∧
      error.path = Step.text (.item index :: steps) ∧
      Step.followAll? statement steps = some error.value := by
  rw [read_eq, ofRawStatements, map_eq_error_iff] at h
  rcases Statement.readItemsAt_cases (fun item _ => Statement.settled item) 0 with
    ⟨results, hresults⟩ | ⟨index, statement, steps, defect, value, hstatement, reached, herror⟩
  · rw [hresults] at h
    cases h
  · rw [herror, Nat.zero_add] at h
    obtain rfl := Except.error.inj h
    exact ⟨index, statement, steps, hstatement, rfl, reached⟩

end Predicate

/-- An error in a statement alone is at a place that leads to its value from the beginning. -/
theorem Statement.exists_of_read_eq_error {raw : Json} {error : StatementError}
    (h : Statement.read raw = .error error) :
    ∃ steps, error.path = Step.text steps ∧ Step.followAll? raw steps = some error.value := by
  rw [Statement.read] at h
  rcases Statement.settled raw with ⟨result, hreader⟩ | ⟨steps, defect, value, reached, hreader⟩
  · rw [hreader] at h
    cases h
  · rw [hreader] at h
    obtain rfl := Except.error.inj h
    exact ⟨steps, rfl, reached⟩

/-- **Every error shows the value at its place.**

    The path of an error is the text of some steps, and of no others; the steps lead to the value that
    the error shows, and if there are none, that is the whole value.  In a predicate the first step is the
    position of a raw statement, and the others lead on inside that. -/
theorem error_value_at_path :
    (∀ raw error, Statement.read raw = .error error →
      ∃ steps, error.path = Step.text steps ∧ Step.followAll? raw steps = some error.value ∧
        ∀ other, Step.text other = error.path → other = steps) ∧
    (∀ raw error, Statement.read raw = .error error → error.path = "" → error.value = raw) ∧
    (∀ raw error, Predicate.read raw = .error error →
      ∃ index statement steps, (Predicate.rawStatements raw)[index]? = some statement ∧
        error.path = Step.text (.item index :: steps) ∧
        Step.followAll? statement steps = some error.value ∧
        ∀ other, Step.text other = error.path → other = .item index :: steps) := by
  refine ⟨?_, ?_, ?_⟩
  · intro raw error h
    obtain ⟨steps, hpath, hvalue⟩ := Statement.exists_of_read_eq_error h
    refine ⟨steps, hpath, hvalue, fun other hother => ?_⟩
    exact Step.text_injective (hother.trans hpath)
  · intro raw error h hempty
    obtain ⟨steps, hpath, hvalue⟩ := Statement.exists_of_read_eq_error h
    have hsteps : steps = [] := Step.text_injective (hpath.symm.trans hempty)
    subst hsteps
    exact (Option.some.inj hvalue).symm
  · intro raw error h
    obtain ⟨index, statement, steps, hstatement, hpath, hvalue⟩ := Predicate.exists_of_read_eq_error h
    refine ⟨index, statement, steps, hstatement, hpath, hvalue, fun other hother => ?_⟩
    exact Step.text_injective (hother.trans hpath)

end RollConditions
