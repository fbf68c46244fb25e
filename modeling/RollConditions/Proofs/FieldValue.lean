/-
  Which fields have a value.

  A field has a value among some facts if a single fact is a reading of its path, however often that fact
  is listed and wherever it stands.  This is what the scan finds out (`Lookup`); here it is said without
  the scan, for the case of a value and for the case of none.

  For a comparison over a field only the readings count, and a reading fits 64 bits.  The facts that carry
  a number of any size for the path are the CANDIDATES of the field (`IsCandidate`).  The two notions part
  where a number is too large: two candidates leave a field without a value if both fit 64 bits, but a
  candidate that does not fit is overlooked, and the other one gives the value as if it were alone.
-/
import RollConditions.Proofs.CarriedNumber
import RollConditions.Proofs.Relevance

namespace RollConditions

namespace Fact

/-! ## The scan without the scan -/

/-- The only reading is the one fact among all that is a reading, however often it is listed. -/
theorem isOnlyReading_iff {path : String} {facts : List String} {value : Int} :
    IsOnlyReading path facts value ↔
      (∃! fact, fact ∈ facts ∧ (reading? path fact).isSome = true) ∧
        ∃ fact ∈ facts, reading? path fact = some value := by
  constructor
  · rintro ⟨fact, hmem, hfact, honly⟩
    have hsome : (reading? path fact).isSome = true := by simp [hfact]
    exact ⟨⟨fact, ⟨hmem, hsome⟩, fun other hother => honly other hother.1 hother.2⟩, fact, hmem, hfact⟩
  · rintro ⟨⟨only, _, honly⟩, fact, hmem, hfact⟩
    have heq : fact = only := honly fact ⟨hmem, by simp [hfact]⟩
    subst heq
    exact ⟨fact, hmem, hfact, fun other hother hreading => honly other ⟨hother, hreading⟩⟩

/-- The scan ends without a value if it meets no reading or two different ones. -/
theorem onlyReading?_eq_none_iff {path : String} {facts : List String} :
    onlyReading? path facts = none ↔
      (∀ fact ∈ facts, reading? path fact = none) ∨
        ∃ first ∈ facts, ∃ second ∈ facts, first ≠ second ∧
          (reading? path first).isSome = true ∧ (reading? path second).isSome = true := by
  rw [Option.eq_none_iff_forall_ne_some]
  constructor
  · intro hnone
    by_cases hreading : ∀ fact ∈ facts, reading? path fact = none
    · exact Or.inl hreading
    · right
      push Not at hreading
      obtain ⟨first, hfirst, hsome⟩ := hreading
      obtain ⟨value, hvalue⟩ := Option.ne_none_iff_exists'.mp hsome
      -- were it the only reading, the scan would return its value
      have hnot : ¬ ∀ other ∈ facts, (reading? path other).isSome = true → other = first :=
        fun honly => hnone value (onlyReading?_eq_some_iff.mpr ⟨first, hfirst, hvalue, honly⟩)
      push Not at hnot
      obtain ⟨second, hsecond, hreading, hne⟩ := hnot
      exact ⟨first, hfirst, second, hsecond, Ne.symm hne, by simp [hvalue], hreading⟩
  · rintro hcases value hvalue
    obtain ⟨only, hmem, honly, hall⟩ := onlyReading?_eq_some_iff.mp hvalue
    rcases hcases with hreading | ⟨first, hfirst, second, hsecond, hne, hone, htwo⟩
    · rw [hreading only hmem] at honly
      exact absurd honly (by simp)
    · exact hne ((hall first hfirst hone).trans (hall second hsecond htwo).symm)

/-- **A field has the value of its single reading.**

    A field has a value among listed facts if exactly one text among them is a reading of its path, and
    it has the value of that reading.  It has none if there is no reading, or if there are two different
    texts that are readings, be it of the same number.  So neither the order of the facts nor their
    repetition counts: two lists with the same entries give a field the same value. -/
theorem field_value_is_that_of_single_reading (path : String) (facts : List String) :
    (∀ value, onlyReading? path facts = some value ↔
      (∃! fact, fact ∈ facts ∧ (reading? path fact).isSome = true) ∧
        ∃ fact ∈ facts, reading? path fact = some value) ∧
    (onlyReading? path facts = none ↔
      (∀ fact ∈ facts, reading? path fact = none) ∨
        ∃ first ∈ facts, ∃ second ∈ facts, first ≠ second ∧
          (reading? path first).isSome = true ∧ (reading? path second).isSome = true) ∧
    (∀ others : List String, (∀ fact, fact ∈ others ↔ fact ∈ facts) →
      onlyReading? path others = onlyReading? path facts) := by
  refine ⟨?_, onlyReading?_eq_none_iff, ?_⟩
  · intro value
    rw [onlyReading?_eq_some_iff, isOnlyReading_iff]
  · intro others hothers
    exact onlyReading?_congr (fun fact _ => hothers fact)

/-- A list and another one with the same entries, in another order and some of them twice: in both the field
    has the value of its one reading. -/
theorem repeated_level_is_one_reading :
    (∀ fact, fact ∈ ["level:3", "crit", "level:3", "level:x"] ↔ fact ∈ ["crit", "level:x", "level:3"]) ∧
    onlyReading? "level" ["level:3", "crit", "level:3", "level:x"]
      = onlyReading? "level" ["crit", "level:x", "level:3"] ∧
    onlyReading? "level" ["crit", "level:x", "level:3"] = some 3 ∧
    ∃! fact, fact ∈ ["crit", "level:x", "level:3"] ∧ (reading? "level" fact).isSome = true := by
  have hsame : ∀ fact,
      fact ∈ ["level:3", "crit", "level:3", "level:x"] ↔ fact ∈ ["crit", "level:x", "level:3"] := by
    intro fact
    simp only [List.mem_cons, List.not_mem_nil, or_false]
    constructor
    · rintro (h | h | h | h) <;> simp [h]
    · rintro (h | h | h) <;> simp [h]
  have hvalue : onlyReading? "level" ["crit", "level:x", "level:3"] = some 3 := by decide
  obtain ⟨hvalues, -, hothers⟩ := field_value_is_that_of_single_reading "level" ["crit", "level:x", "level:3"]
  exact ⟨hsame, hothers _ hsame, hvalue, ((hvalues 3).mp hvalue).1⟩

/-- Two spellings of one number are two readings. -/
example : onlyReading? "foo" ["foo:3", "foo:03"] = none := by decide

end Fact

/-! ## Candidates of any size -/

section candidates

variable {σ : Type} [FactSet σ]

/-- A fact of a collection that carries a number for a path, of any size. -/
def IsCandidate (collection : σ) (path fact : String) (value : Int) : Prop :=
  FactSet.contains collection fact = true ∧ Fact.Carries path fact value

/-- Two different facts of a collection carry numbers for the path. -/
def IsAmbiguous (collection : σ) (path : String) : Prop :=
  ∃ first second value number, first ≠ second ∧ IsCandidate collection path first value ∧
    IsCandidate collection path second number

/-- A field has no value, and no comparison over it holds, on either side of whatever operand. -/
structure IsUnresolved (collection : σ) (path : String) : Prop where
  /-- The field has no value. -/
  value?_eq_none : FactSet.value? collection path = none
  /-- No comparison over the field holds. -/
  comparison_fails : ∀ (relation : Comparison) (left right : Operand),
    left = .field path ∨ right = .field path →
      (Statement.comparison relation left right).holds collection = false

/-- A comparison fails if one side stands for no number. -/
theorem Comparison.holdsOf_eq_false {facts : σ} {relation : Comparison} {left right : Operand}
    (h : left.value? facts = none ∨ right.value? facts = none) :
    relation.holdsOf facts left right = false := by
  unfold Comparison.holdsOf
  rcases h with h | h
  · rw [h]
  · rw [h]
    cases left.value? facts <;> rfl

/-- A field without a value fails every comparison. -/
theorem isUnresolved_iff {collection : σ} {path : String} :
    IsUnresolved collection path ↔ FactSet.value? collection path = none := by
  constructor
  · exact fun h => h.value?_eq_none
  · intro hnone
    have hfield : (Operand.field path).value? collection = none := by
      rw [Operand.value?, hnone, Option.map_none]
    refine ⟨hnone, ?_⟩
    intro relation left right hside
    apply Comparison.holdsOf_eq_false
    rcases hside with rfl | rfl
    · exact Or.inl hfield
    · exact Or.inr hfield

variable [LawfulFactSet σ] {collection : σ} {path fact : String}

/-- Candidates that fit 64 bits are the readings among the facts of a collection. -/
theorem isCandidate_inRange_iff {value : Int} :
    IsCandidate collection path fact value ∧ Fact.IsReadingRange value ↔
      fact ∈ FactSet.facts collection ∧ Fact.reading? path fact = some value := by
  rw [IsCandidate, FactSet.contains_iff_mem_facts, Fact.reading?_eq_some_iff_carries, and_assoc]

theorem exists_isCandidate_inRange_iff :
    (∃ value, IsCandidate collection path fact value ∧ Fact.IsReadingRange value) ↔
      fact ∈ FactSet.facts collection ∧ (Fact.reading? path fact).isSome = true := by
  simp only [isCandidate_inRange_iff, exists_and_left, Option.isSome_iff_exists]

/-- **When a field is unresolved.**

    A field has no value, and every comparison over it fails, exactly if no candidate fits 64 bits or two
    different ones do, in every kind of collection and whatever else is in it.  So an ambiguous field is
    unresolved unless just one of its candidates fits 64 bits. -/
theorem field_unresolved_iff (collection : σ) (path : String) :
    IsUnresolved collection path ↔
      (∀ fact value, IsCandidate collection path fact value → ¬ Fact.IsReadingRange value) ∨
        ∃ first second value number, first ≠ second ∧
          (IsCandidate collection path first value ∧ Fact.IsReadingRange value) ∧
          (IsCandidate collection path second number ∧ Fact.IsReadingRange number) := by
  have hvalue : FactSet.value? collection path = Fact.onlyReading? path (FactSet.facts collection) :=
    (LawfulFactSet.alike_facts collection).value?_eq path
  rw [isUnresolved_iff, hvalue, Fact.onlyReading?_eq_none_iff]
  refine or_congr ?_ ?_
  · constructor
    · intro hnone fact value hcandidate hrange
      obtain ⟨hmem, hreading⟩ := isCandidate_inRange_iff.mp ⟨hcandidate, hrange⟩
      rw [hnone fact hmem] at hreading
      exact absurd hreading (by simp)
    · intro hnone fact hmem
      rw [Option.eq_none_iff_forall_ne_some]
      intro value hreading
      obtain ⟨hcandidate, hrange⟩ := isCandidate_inRange_iff.mpr ⟨hmem, hreading⟩
      exact hnone fact value hcandidate hrange
  · constructor
    · rintro ⟨first, hfirst, second, hsecond, hne, hone, htwo⟩
      obtain ⟨value, hvalue⟩ := exists_isCandidate_inRange_iff.mpr ⟨hfirst, hone⟩
      obtain ⟨number, hnumber⟩ := exists_isCandidate_inRange_iff.mpr ⟨hsecond, htwo⟩
      exact ⟨first, second, value, number, hne, hvalue, hnumber⟩
    · rintro ⟨first, second, value, number, hne, hvalue, hnumber⟩
      obtain ⟨hfirst, hone⟩ := exists_isCandidate_inRange_iff.mp ⟨value, hvalue⟩
      obtain ⟨hsecond, htwo⟩ := exists_isCandidate_inRange_iff.mp ⟨number, hnumber⟩
      exact ⟨first, hfirst, second, hsecond, hne, hone, htwo⟩

end candidates

/-- Two spellings of one number leave a field unresolved, also beside a candidate past 64 bits. -/
theorem two_near_candidates_leave_field_unresolved :
    IsUnresolved (RollOptions.ofList ["foo:3", "foo:03", "foo:99999999999999999999"]) "foo" := by
  refine (field_unresolved_iff _ _).mpr (Or.inr ⟨"foo:3", "foo:03", 3, 3, by decide, ?_, ?_⟩)
  · exact isCandidate_inRange_iff.mpr ⟨RollOptions.mem_sorted_ofList.mpr (by simp), by decide⟩
  · exact isCandidate_inRange_iff.mpr ⟨RollOptions.mem_sorted_ofList.mpr (by simp), by decide⟩

/-- Two facts that carry numbers for one path, one of them past 64 bits. -/
def farAndNear : List String := ["foo:99999999999999999999", "foo:7"]

/-- **A candidate past 64 bits is overlooked.**  Two facts carry numbers for the field, and still it has a
    value, in every kind of collection, and a comparison over it holds. -/
theorem far_candidate_is_overlooked :
    IsAmbiguous farAndNear "foo" ∧ ¬ IsUnresolved farAndNear "foo" ∧
    FactSet.value? farAndNear "foo" = some 7 ∧
    FactSet.value? (RollOptions.ofList farAndNear) "foo" = some 7 ∧
    FactSet.value? (Std.HashSet.ofList farAndNear) "foo" = some 7 ∧
    FactSet.value? (Std.TreeSet.ofList farAndNear) "foo" = some 7 ∧
    (Statement.comparison .greater (.field "foo") (.literal (.ofInt 3))).holds farAndNear = true := by
  have hvalue : FactSet.value? farAndNear "foo" = some 7 := by decide
  have hfar : Fact.Carries "foo" ("foo" ++ ":" ++ toString (99999999999999999999 : Int))
      99999999999999999999 := Fact.carries_toString "foo" 99999999999999999999
  have hnear : Fact.Carries "foo" ("foo" ++ ":" ++ toString (7 : Int)) 7 := Fact.carries_toString "foo" 7
  refine ⟨⟨_, _, _, _, ?_, ⟨?_, hfar⟩, ⟨?_, hnear⟩⟩, ?_, hvalue, ?_, ?_, ?_, ?_⟩
  · decide
  · decide
  · decide
  · rw [isUnresolved_iff, hvalue]
    exact Option.some_ne_none 7
  · rw [(alike_rollOptions farAndNear).value?_eq, hvalue]
  · rw [(alike_hashSet farAndNear).value?_eq, hvalue]
  · rw [(alike_treeSet farAndNear).value?_eq, hvalue]
  · decide +kernel

end RollConditions
