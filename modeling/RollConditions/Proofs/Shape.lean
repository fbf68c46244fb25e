/-
  The shapes of raw objects, and what reading each of them does.

  An object is a raw statement only if its keys are those of one: a single key that stands for a whole
  statement, or the two halves of an implication.  `shape_of` sorts every object into one of six cases,
  and each case has one equation for `Statement.readAt`.  What is proved about reading elsewhere goes
  through these equations and never opens the reader itself.
-/
import Mathlib.Data.List.Permutation
import RollConditions.Predicate

namespace RollConditions

/-! ## Results and errors in sequence

    A reader is a chain of smaller ones.  These equivalences take such a chain apart, from the outside in,
    so that no proof has to split on the result of each link. -/

section sequence

variable {ε α β : Type} {first : Except ε α}

/-- A mapped result comes from a result. -/
theorem map_eq_ok_iff {f : α → β} {result : β} :
    first.map f = .ok result ↔ ∃ a, first = .ok a ∧ f a = result := by
  cases first with
  | ok a =>
    show Except.ok (f a) = .ok result ↔ _
    simp
  | error error =>
    show Except.error error = .ok result ↔ _
    simp

/-- Mapping the result leaves an error as it was. -/
theorem map_eq_error_iff {f : α → β} {error : ε} : first.map f = .error error ↔ first = .error error := by
  cases first with
  | ok a =>
    show Except.ok (f a) = .error error ↔ _
    simp
  | error other =>
    show Except.error other = .error error ↔ _
    simp

/-- Two readings in sequence have a result just if both have one, the second after the first. -/
theorem bind_eq_ok_iff {next : α → Except ε β} {result : β} :
    (first >>= next) = .ok result ↔ ∃ a, first = .ok a ∧ next a = .ok result := by
  cases first with
  | ok a =>
    show next a = .ok result ↔ _
    simp
  | error error =>
    show Except.error error = .ok result ↔ _
    simp

/-- Of two results in sequence the first one that is an error counts. -/
theorem bind_eq_error_iff {next : α → Except ε β} {error : ε} :
    (first >>= next) = .error error ↔
      first = .error error ∨ ∃ a, first = .ok a ∧ next a = .error error := by
  cases first with
  | ok a =>
    show next a = .error error ↔ _
    simp
  | error other =>
    show Except.error other = .error error ↔ _
    simp

/-- Mapping the error leaves a result as it was. -/
theorem mapError_eq_ok_iff {ε' : Type} {f : ε → ε'} {result : α} :
    first.mapError f = .ok result ↔ first = .ok result := by
  cases first <;> simp [Except.mapError]

/-- A mapped error comes from an error. -/
theorem mapError_eq_error_iff {ε' : Type} {f : ε → ε'} {error : ε'} :
    first.mapError f = .error error ↔ ∃ cause, first = .error cause ∧ f cause = error := by
  cases first <;> simp [Except.mapError]

end sequence

/-- The refusal of a reading, if it is refused. -/
def refusal? {ε α : Type} : Except ε α → Option ε
  | .ok _ => none
  | .error refusal => some refusal

section refusal

variable {ε α β γ : Type} {reading : Except ε α}

/-- A reading that is not refused has a result. -/
theorem refusal?_eq_none_iff : refusal? reading = none ↔ ∃ result, reading = .ok result := by
  cases reading <;> simp [refusal?]

/-- A refusal is the error of the reading. -/
theorem refusal?_eq_some_iff {refusal : ε} : refusal? reading = some refusal ↔ reading = .error refusal := by
  cases reading <;> simp [refusal?]

/-- What is made of a result afterwards does not matter to the refusal. -/
theorem refusal?_map (f : α → β) : refusal? (reading.map f) = refusal? reading := by
  cases reading <;> rfl

/-- Of two readings one after the other, the first one that is refused counts. -/
theorem refusal?_bind_bind (first : Except ε α) (second : Except ε β) (f : α → β → γ) :
    refusal? (do
      let a ← first
      let b ← second
      return f a b) = (refusal? first).or (refusal? second) := by
  cases first <;> cases second <;> rfl

end refusal

/-! ## The shapes -/

namespace Keyword

/-- Whether a key stands for a whole statement and not for one half of an implication. -/
def isWhole : Keyword → Bool
  | condition | conclusion => false
  | _ => true

end Keyword

namespace Statement

/-- The keys are those of a raw statement. -/
def AreStatementKeys (keys : List String) : Prop :=
  (∃ keyword : Keyword, keyword.isWhole = true ∧ keys = [keyword.text]) ∨
    keys.Perm [Keyword.condition.text, Keyword.conclusion.text]

/-- The fields of an object, sorted by what the reader does with them. -/
inductive Shape : List (String × Json) → Prop where
  | negation (value : Json) : Shape [(Keyword.negation.text, value)]
  | group (connective : Connective) (items : List Json) :
    Shape [((Keyword.group connective).text, .list items)]
  /-- A connective on something that is not a list. -/
  | groupOfOther (connective : Connective) (value : Json) (notList : ∀ items, value ≠ .list items) :
    Shape [((Keyword.group connective).text, value)]
  | comparison (relation : Comparison) (value : Json) :
    Shape [((Keyword.comparison relation).text, value)]
  | implication (fields : List (String × Json)) (a b : Json)
    (halves : fields.Perm [(Keyword.condition.text, a), (Keyword.conclusion.text, b)]) : Shape fields
  /-- Keys that no statement has. -/
  | misshapen (fields : List (String × Json)) (keys : ¬ AreStatementKeys (fields.map (·.1))) :
    Shape fields

/-- **Every object has a shape.** -/
theorem shape_of (fields : List (String × Json)) : Shape fields := by
  by_cases h : AreStatementKeys (fields.map (·.1))
  · rcases h with ⟨keyword, hwhole, hkeys⟩ | hkeys
    · -- one key, and the keyword says which shape; only a connective looks at its value
      obtain ⟨⟨key, value⟩, rfl, hkey⟩ := List.map_eq_singleton_iff.mp hkeys
      obtain rfl : key = keyword.text := hkey
      cases keyword with
      | negation => exact .negation value
      | group connective =>
        by_cases hlist : ∃ items, value = .list items
        · obtain ⟨items, rfl⟩ := hlist
          exact .group connective items
        · exact .groupOfOther connective value (fun items heq => hlist ⟨items, heq⟩)
      | condition => exact absurd hwhole Bool.noConfusion
      | conclusion => exact absurd hwhole Bool.noConfusion
      | comparison relation => exact .comparison relation value
    · -- two keys, the halves of an implication in one order or the other
      rcases List.perm_pair.mp hkeys with hkeys | hkeys
      · obtain ⟨⟨first, a⟩, rest, rfl, rfl, hrest⟩ := List.map_eq_cons_iff.mp hkeys
        obtain ⟨⟨second, b⟩, rfl, rfl⟩ := List.map_eq_singleton_iff.mp hrest
        exact .implication _ a b (List.Perm.refl _)
      · obtain ⟨⟨first, b⟩, rest, rfl, rfl, hrest⟩ := List.map_eq_cons_iff.mp hkeys
        obtain ⟨⟨second, a⟩, rfl, rfl⟩ := List.map_eq_singleton_iff.mp hrest
        exact .implication _ a b (List.Perm.swap _ _ _)
  · exact .misshapen fields h

/-- **Induction over raw statements.**  One case for each shape; what holds of a shape may rest on what
    holds of the raw statements in it.  Nothing is assumed about the operands of a comparison, nor about
    what is in a misshapen object: the reader does not look there for statements. -/
@[elab_as_elim]
theorem raw_induction {motive : Json → Prop}
    (null : motive .null)
    (bool : ∀ value, motive (.bool value))
    (number : ∀ value, motive (.number value))
    (text : ∀ fact, motive (.text fact))
    (list : ∀ items, motive (.list items))
    (negation : ∀ value, motive value → motive (.object [(Keyword.negation.text, value)]))
    (group : ∀ connective items, (∀ item ∈ items, motive item) →
      motive (.object [((Keyword.group connective).text, .list items)]))
    (groupOfOther : ∀ connective value, (∀ items, value ≠ .list items) →
      motive (.object [((Keyword.group connective).text, value)]))
    (comparison : ∀ relation value, motive (.object [((Keyword.comparison relation).text, value)]))
    (implication : ∀ fields a b,
      fields.Perm [(Keyword.condition.text, a), (Keyword.conclusion.text, b)] →
      motive a → motive b → motive (.object fields))
    (misshapen : ∀ fields, ¬ AreStatementKeys (fields.map (·.1)) → motive (.object fields))
    (raw : Json) : motive raw := by
  -- a group reaches two levels down, so the items of a list are carried along with the list
  have both : motive raw ∧ ∀ items, raw = .list items → ∀ item ∈ items, motive item := by
    induction raw with
    | null => exact ⟨null, nofun⟩
    | bool value => exact ⟨bool value, nofun⟩
    | number value => exact ⟨number value, nofun⟩
    | text fact => exact ⟨text fact, nofun⟩
    | list items ih =>
      refine ⟨list items, fun _ heq item hitem => ?_⟩
      obtain rfl := Json.list.inj heq
      exact (ih item hitem).1
    | object fields ih =>
      refine ⟨?_, nofun⟩
      cases shape_of fields with
      | negation value => exact negation value (ih _ List.mem_cons_self).1
      | group connective items =>
        exact group connective items ((ih _ List.mem_cons_self).2 items rfl)
      | groupOfOther connective value notList => exact groupOfOther connective value notList
      | comparison relation value => exact comparison relation value
      | implication _ a b halves =>
        -- both halves are among the fields, in whichever order they stand there
        have ha := ih _ (halves.mem_iff.mpr List.mem_cons_self)
        have hb := ih _ (halves.mem_iff.mpr (List.mem_cons_of_mem _ List.mem_cons_self))
        exact implication fields a b halves ha.1 hb.1
      | misshapen _ keys => exact misshapen fields keys
  exact both.1

/-! ## One equation for each shape

    An equation says where the parts of the shape are read, one step further in, and what is made of them. -/

/-- A text is a fact, wherever it stands. -/
theorem readAt_text (place fact : String) : readAt place (.text fact) = .ok (.atom fact) := rfl

/-- A negation reads what it negates. -/
theorem readAt_negation (place : String) (value : Json) :
    readAt place (.object [(Keyword.negation.text, value)])
      = (readAt (Step.extend place (.key .negation)) value).map .not := by
  rw [readAt, Keyword.ofText?_text]

/-- A connective reads the items of its list, counted from zero. -/
theorem readAt_group (place : String) (connective : Connective) (items : List Json) :
    readAt place (.object [((Keyword.group connective).text, .list items)])
      = (readItemsAt (Step.extend place (.key (.group connective))) 0 items).map
          (.group connective) := by
  rw [readAt, Keyword.ofText?_text]

/-- A connective has to have a list. -/
theorem readAt_group_of_not_list (place : String) (connective : Connective) {value : Json}
    (h : ∀ items, value ≠ .list items) :
    readAt place (.object [((Keyword.group connective).text, value)])
      = .error ⟨Step.extend place (.key (.group connective)), .notItems connective, value⟩ := by
  rw [readAt, Keyword.ofText?_text]
  cases value with
  | list items => exact absurd rfl (h items)
  | _ => rfl

/-- A comparison reads its operands; whether it has two of them is seen there. -/
theorem readAt_comparison (place : String) (relation : Comparison) (value : Json) :
    readAt place (.object [((Keyword.comparison relation).text, value)])
      = readComparisonAt (Step.extend place (.key (.comparison relation))) relation value := by
  rw [readAt, Keyword.ofText?_text]

/-- The operands of a comparison, the left one read before the right one. -/
theorem readComparisonAt_pair (place : String) (relation : Comparison) (a b : Json) :
    readComparisonAt place relation (.list [a, b]) = (do
      let left ← Operand.readAt (Step.extend place (.item 0)) a
      let right ← Operand.readAt (Step.extend place (.item 1)) b
      return .comparison relation left right) := rfl

/-- A relation has to have two operands. -/
theorem readComparisonAt_of_length_ne (place : String) (relation : Comparison) {items : List Json}
    (h : items.length ≠ 2) :
    readComparisonAt place relation (.list items)
      = .error ⟨place, .operandCount relation items.length, .list items⟩ := by
  -- none, one, two, or more of them
  rcases items with _ | ⟨a, _ | ⟨b, _ | ⟨c, rest⟩⟩⟩
  · rfl
  · rfl
  · exact absurd rfl h
  · rfl

/-- A relation has to have a list. -/
theorem readComparisonAt_of_not_list (place : String) (relation : Comparison) {value : Json}
    (h : ∀ items, value ≠ .list items) :
    readComparisonAt place relation value = .error ⟨place, .notOperands relation, value⟩ := by
  cases value with
  | list items => exact absurd rfl (h items)
  | _ => rfl

/-- The two halves of an implication, the condition read before the conclusion. -/
def readHalvesAt (place : String) (condition conclusion : Json) :
    Except StatementError Statement := do
  let condition ← readAt (Step.extend place (.key .condition)) condition
  let conclusion ← readAt (Step.extend place (.key .conclusion)) conclusion
  return .implication condition conclusion

/-- The halves may stand in either order. -/
theorem readAt_implication (place : String) {fields : List (String × Json)} {a b : Json}
    (h : fields.Perm [(Keyword.condition.text, a), (Keyword.conclusion.text, b)]) :
    readAt place (.object fields) = readHalvesAt place a b := by
  -- the reader tries the two orders one after the other
  rcases List.perm_pair.mp h with rfl | rfl
  · rw [readAt, if_pos ⟨rfl, rfl⟩]
    rfl
  · rw [readAt, if_neg (by decide), if_pos ⟨rfl, rfl⟩]
    rfl

/-- An object with the wrong keys is refused as a whole. -/
theorem readAt_misshapen (place : String) {fields : List (String × Json)}
    (h : ¬ AreStatementKeys (fields.map (·.1))) :
    readAt place (.object fields) = .error ⟨place, fieldsDefect fields, .object fields⟩ := by
  match fields, h with
  | [], _ => simp [readAt]
  | [(key, value)], h =>
    rw [readAt]
    cases hkey : Keyword.ofText? key with
    | none => rfl
    | some keyword =>
      -- only a half of an implication is left, every other key makes a statement
      have hhalf : keyword.isWhole = false := by
        by_contra hwhole
        rw [Bool.not_eq_false] at hwhole
        rw [Keyword.ofText?_eq_some_iff.mp hkey] at h
        exact h (Or.inl ⟨keyword, hwhole, rfl⟩)
      cases keyword with
      | condition => rfl
      | conclusion => rfl
      | _ => exact absurd hhalf Bool.noConfusion
  | [(first, a), (second, b)], h =>
    -- two keys that are the halves in neither order
    rw [readAt, if_neg, if_neg]
    · rintro ⟨rfl, rfl⟩
      exact h (Or.inr (List.Perm.swap _ _ _))
    · rintro ⟨rfl, rfl⟩
      exact h (Or.inr (List.Perm.refl _))
  | _ :: _ :: _ :: _, _ => simp [readAt]

end Statement

/-! ## Raw predicates -/

namespace Predicate

/-- The raw statements of a raw predicate: a value that is no list stands for a list of it alone. -/
def rawStatements : Json → List Json
  | .list raws => raws
  | raw => [raw]

/-- A predicate is read from its raw statements, whichever form it has. -/
theorem read_eq (raw : Json) : read raw = ofRawStatements (rawStatements raw) := by
  cases raw <;> rfl

/-- A value that is no list is read like a list of it alone. -/
theorem read_of_not_list {raw : Json} (h : ∀ items, raw ≠ .list items) :
    read raw = ofRawStatements [raw] := by
  cases raw with
  | list items => exact absurd rfl (h items)
  | _ => rfl

end Predicate

end RollConditions
