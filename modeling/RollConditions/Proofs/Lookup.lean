/-
  The value of a field depends on which facts there are, and on nothing else.

  Four kinds of collection answer the same three questions in different ways: a plain list keeps order
  and repetitions, a hashed set has an order of its own, roll options are kept in ascending order, and an
  ordered set looks for the value of a field in one stretch only.  Two facts make them agree.

    * THE SCAN.  `onlyReadingAfter?` remembers the first reading that it meets and gives up at a second
      one.  Its result says that exactly one reading is among the facts (`onlyReading?_eq_some_iff`), a
      statement about membership alone, so neither the order nor repetitions can matter.
    * THE STRETCH.  In the order of texts everything between a text and one that it begins begins with
      it too (`prefix_of_between`).  So the facts with a given stem are neighbours in an ascending list,
      and cutting out the stretch that starts at the stem is the same as filtering the whole list
      (`stretch_eq_filter`).

  From there a statement holds of one collection if it holds of the other, by induction over it.
-/
import Mathlib.Data.List.Basic
import RollConditions.Fact.RollOptions
import RollConditions.Predicate

namespace RollConditions

namespace Fact

/-! ## The scan for the only reading -/

/-- A fact is a reading of a path if it is the stem of the path and the digits of a value in range. -/
theorem reading?_eq_some_iff {path fact : String} {value : Int} :
    reading? path fact = some value ↔
      ∃ written, fact.toList = stem path ++ written ∧ whole? written = some value ∧
        IsReadingRange value := by
  simp only [reading?, Option.bind_eq_bind, Option.bind_eq_some_iff, List.isPrefixOf?_eq_some_iff_append_eq,
    Option.ite_none_right_eq_some, Option.some.injEq]
  constructor
  · rintro ⟨written, hwritten, other, hother, hrange, rfl⟩
    exact ⟨written, hwritten.symm, hother, hrange⟩
  · rintro ⟨written, hwritten, hvalue, hrange⟩
    exact ⟨written, hwritten.symm, value, hvalue, hrange, rfl⟩

/-- Exactly one of the facts is a reading of the path, and it gives the value. -/
def IsOnlyReading (path : String) (facts : List String) (value : Int) : Prop :=
  ∃ fact ∈ facts, reading? path fact = some value ∧
    ∀ other ∈ facts, (reading? path other).isSome → other = fact

/-- **The scan invariant.**  Once a reading has been seen, the scan returns its value if every reading
    still to come is that same fact, and nothing otherwise. -/
theorem onlyReadingAfter?_seen {path first : String} {value result : Int} {facts : List String} :
    onlyReadingAfter? path (some (first, value)) facts = some result ↔
      result = value ∧ ∀ other ∈ facts, (reading? path other).isSome → other = first := by
  induction facts with
  | nil =>
    show some value = some result ↔ _
    rw [Option.some.injEq, eq_comm]
    exact ⟨fun h => ⟨h, fun _ hother => absurd hother List.not_mem_nil⟩, fun h => h.1⟩
  | cons fact rest ih =>
    rw [onlyReadingAfter?]
    cases hfact : reading? path fact with
    | none =>
      -- not a reading: the scan goes on as if the fact were not there
      show onlyReadingAfter? path (some (first, value)) rest = some result ↔ _
      rw [ih, List.forall_mem_cons]
      simp [hfact]
    | some other =>
      show (if first = fact then onlyReadingAfter? path (some (first, value)) rest else none)
        = some result ↔ _
      by_cases heq : first = fact
      · rw [if_pos heq, ih, List.forall_mem_cons]
        simp [heq]
      · rw [if_neg heq, List.forall_mem_cons]
        simp [hfact, Ne.symm heq]

/-- The scan finds a value exactly if one of the facts is a reading and no other one is. -/
theorem onlyReading?_eq_some_iff {path : String} {facts : List String} {value : Int} :
    onlyReading? path facts = some value ↔ IsOnlyReading path facts value := by
  unfold onlyReading?
  induction facts with
  | nil => simp [onlyReadingAfter?, IsOnlyReading]
  | cons fact rest ih =>
    rw [onlyReadingAfter?]
    cases hfact : reading? path fact with
    | none =>
      show onlyReadingAfter? path none rest = some value ↔ _
      rw [ih]
      simp [IsOnlyReading, hfact]
    | some here =>
      show onlyReadingAfter? path (some (fact, here)) rest = some value ↔ _
      rw [onlyReadingAfter?_seen]
      constructor
      · rintro ⟨rfl, hrest⟩
        exact ⟨fact, List.mem_cons_self, hfact, List.forall_mem_cons.mpr ⟨fun _ => rfl, hrest⟩⟩
      · rintro ⟨only, _, honly, hall⟩
        -- the head is a reading, so it is the only one
        obtain ⟨hhead, hrest⟩ := List.forall_mem_cons.mp hall
        have heq : fact = only := hhead (by simp [hfact])
        subst heq
        exact ⟨Option.some.inj (honly.symm.trans hfact), hrest⟩

/-- Two lists with the same readings of a path give it the same value. -/
theorem onlyReading?_congr {path : String} {facts others : List String}
    (h : ∀ fact, (reading? path fact).isSome → (fact ∈ facts ↔ fact ∈ others)) :
    onlyReading? path facts = onlyReading? path others := by
  have transfer : ∀ {xs ys : List String} {value : Int},
      (∀ fact, (reading? path fact).isSome → (fact ∈ xs ↔ fact ∈ ys)) →
      IsOnlyReading path xs value → IsOnlyReading path ys value := by
    rintro xs ys value hsame ⟨fact, hmem, hfact, hall⟩
    refine ⟨fact, (hsame fact (by simp [hfact])).mp hmem, hfact, fun other hother hreading => ?_⟩
    exact hall other ((hsame other hreading).mpr hother) hreading
  apply Option.ext
  intro value
  rw [onlyReading?_eq_some_iff, onlyReading?_eq_some_iff]
  exact ⟨transfer h, transfer (fun fact hfact => (h fact hfact).symm)⟩

/-! ## The stretch of an ascending list -/

/-- **Texts that begin alike are neighbours.**  What lies between a text and one that it begins, begins
    with it too. -/
theorem prefix_of_between {stem a b : List Char} (hstem : ¬ a < stem) (hab : a < b)
    (hb : stem <+: b) : stem <+: a := by
  induction stem generalizing a b with
  | nil => exact List.nil_prefix
  | cons c stem ih =>
    obtain ⟨rest, rfl⟩ := hb
    cases a with
    | nil => exact absurd (List.nil_lt_cons c stem) hstem
    | cons d a =>
      rw [List.cons_append, List.cons_lt_cons_iff] at hab
      rw [List.cons_lt_cons_iff] at hstem
      rcases hab with hlt | ⟨rfl, hlt⟩
      · exact absurd (Or.inl hlt) hstem
      · have hrest : ¬ a < stem := fun h => hstem (Or.inr ⟨rfl, h⟩)
        exact List.cons_prefix_cons.mpr ⟨rfl, ih hrest hlt (List.prefix_append stem rest)⟩

/-- A text does not come before what it begins with. -/
theorem not_lt_of_prefix {stem a : List Char} (h : stem <+: a) : ¬ a < stem := by
  induction stem generalizing a with
  | nil => exact List.not_lt_nil a
  | cons c stem ih =>
    obtain ⟨rest, rfl⟩ := h
    rw [List.cons_append, List.cons_lt_cons_iff]
    rintro (hlt | ⟨_, hlt⟩)
    · exact Char.lt_irrefl c hlt
    · exact ih (List.prefix_append stem rest) hlt

theorem hasStem_iff {path fact : String} : hasStem path fact = true ↔ stem path <+: fact.toList :=
  List.isPrefixOf_iff_prefix

/-- A reading of a path begins with its stem. -/
theorem hasStem_of_reading? {path fact : String} (h : (reading? path fact).isSome) :
    hasStem path fact = true := by
  obtain ⟨value, hvalue⟩ := Option.isSome_iff_exists.mp h
  obtain ⟨written, hwritten, _⟩ := reading?_eq_some_iff.mp hvalue
  exact hasStem_iff.mpr ⟨written, hwritten.symm⟩

/-- From a fact on that does not come before the stem, the facts with the stem come first. -/
theorem takeWhile_hasStem {path : String} {facts : List String} (hfacts : facts.Pairwise (· < ·))
    (hstem : ∀ fact ∈ facts, ¬ fact < String.ofList (stem path)) :
    facts.takeWhile (hasStem path) = facts.filter (hasStem path) := by
  induction facts with
  | nil => rfl
  | cons fact rest ih =>
    obtain ⟨hhead, hrest⟩ := List.pairwise_cons.mp hfacts
    rw [List.takeWhile_cons, List.filter_cons]
    by_cases hfact : hasStem path fact = true
    · rw [if_pos hfact, if_pos hfact, ih hrest (fun other h => hstem other (List.mem_cons_of_mem _ h))]
    · -- a later fact with the stem would give this one the stem as well
      have hnone : rest.filter (hasStem path) = [] := by
        rw [List.filter_eq_nil_iff]
        intro other hother hlater
        have hnot : ¬ fact.toList < stem path := by
          have := hstem fact List.mem_cons_self
          rwa [String.lt_iff, String.toList_ofList] at this
        exact hfact (hasStem_iff.mpr
          (prefix_of_between hnot (String.lt_iff.mp (hhead other hother)) (hasStem_iff.mp hlater)))
      rw [if_neg hfact, if_neg hfact, hnone]

/-- **The stretch is a filter.**  In an ascending list the stretch of a path holds the facts with its
    stem, all of them and no other. -/
theorem stretch_eq_filter {path : String} {facts : List String} (hfacts : facts.Pairwise (· < ·)) :
    stretch path facts = facts.filter (hasStem path) := by
  unfold stretch
  induction facts with
  | nil => rfl
  | cons fact rest ih =>
    obtain ⟨hhead, hrest⟩ := List.pairwise_cons.mp hfacts
    rw [List.dropWhile_cons]
    by_cases hlt : fact < String.ofList (stem path)
    · -- before the stem: dropped, and no fact with the stem
      have hnot : ¬ hasStem path fact = true := by
        rw [String.lt_iff, String.toList_ofList] at hlt
        exact fun h => not_lt_of_prefix (hasStem_iff.mp h) hlt
      rw [if_pos (decide_eq_true hlt), ih hrest, List.filter_cons, if_neg hnot]
    · rw [if_neg (by simpa using hlt)]
      refine takeWhile_hasStem hfacts (List.forall_mem_cons.mpr ⟨hlt, fun other hother h => ?_⟩)
      exact hlt (String.lt_trans (hhead other hother) h)

/-- The facts `fo:1` and `foo` come before the stem `foo:`, and `food:9` after all facts that have it. -/
example : stretch "foo" ["fo:1", "foo", "foo:3", "foo:x", "food:9"] = ["foo:3", "foo:x"] := by decide

/-- **The stretch loses no reading.**  Cutting out the stretch of a path changes neither the readings
    among the facts nor the value that they give. -/
theorem onlyReading?_stretch {path : String} {facts : List String} (hfacts : facts.Pairwise (· < ·)) :
    onlyReading? path (stretch path facts) = onlyReading? path facts := by
  apply onlyReading?_congr
  intro fact hfact
  rw [stretch_eq_filter hfacts, List.mem_filter]
  exact ⟨fun h => h.1, fun h => ⟨h, hasStem_of_reading? hfact⟩⟩

end Fact

/-! ## Collections that no condition tells apart -/

/-- Two collections, of the same kind or not, that have the same facts and give every field the same
    value. -/
structure Alike {σ τ : Type} [FactSet σ] [FactSet τ] (some : σ) (other : τ) : Prop where
  /-- Every fact is in both or in neither. -/
  contains_eq : ∀ fact, FactSet.contains some fact = FactSet.contains other fact
  /-- Every field has the same value, or none, in both. -/
  value?_eq : ∀ path, FactSet.value? some path = FactSet.value? other path

namespace Alike

variable {σ τ : Type} [FactSet σ] [FactSet τ] {some : σ} {other : τ}

/-- An operand stands for the same number. -/
theorem operand_value?_eq (h : Alike some other) (operand : Operand) :
    operand.value? some = operand.value? other := by
  cases operand with
  | field path => rw [Operand.value?, Operand.value?, h.value?_eq]
  | literal value => rfl

/-- A statement holds of both or of neither. -/
theorem statement_holds_eq (h : Alike some other) (statement : Statement) :
    statement.holds some = statement.holds other := by
  induction statement with
  | atom fact => exact h.contains_eq fact
  | not inner ih => rw [Statement.holds, Statement.holds, ih]
  | group connective items ih =>
    rw [Statement.holds, Statement.holds, Statement.truths_eq_map, Statement.truths_eq_map,
      List.map_congr_left ih]
  | implication condition conclusion ihcondition ihconclusion =>
    rw [Statement.holds, Statement.holds, ihcondition, ihconclusion]
  | comparison relation left right =>
    rw [Statement.holds, Statement.holds, Comparison.holdsOf, Comparison.holdsOf,
      h.operand_value?_eq left, h.operand_value?_eq right]

/-- A predicate holds of both or of neither. -/
theorem predicate_holds_eq (h : Alike some other) (predicate : Predicate) :
    predicate.holds some = predicate.holds other := by
  unfold Predicate.holds
  rw [show Statement.holds some = Statement.holds other from funext h.statement_holds_eq]

end Alike

/-! ## Collecting a list -/

/-- Roll options answer as the list that they were collected from. -/
theorem alike_rollOptions (facts : List String) : Alike (RollOptions.ofList facts) facts where
  contains_eq fact := by
    show (RollOptions.ofList facts).sorted.contains fact = facts.contains fact
    rw [Bool.eq_iff_iff, List.contains_iff_mem, List.contains_iff_mem, RollOptions.mem_sorted_ofList]
  value?_eq path :=
    Fact.onlyReading?_congr (fun _ _ => RollOptions.mem_sorted_ofList)

/-- A hashed set answers as the list that it was collected from, whatever order it has. -/
theorem alike_hashSet (facts : List String) : Alike (Std.HashSet.ofList facts) facts where
  contains_eq fact := Std.HashSet.contains_ofList
  value?_eq path := by
    refine Fact.onlyReading?_congr (fun fact _ => ?_)
    show fact ∈ (Std.HashSet.ofList facts).toList ↔ fact ∈ facts
    rw [Std.HashSet.mem_toList, Std.HashSet.mem_ofList, List.contains_iff_mem]

/-- The facts of an ordered set are in ascending order. -/
theorem pairwise_toList (set : Std.TreeSet String) : set.toList.Pairwise (· < ·) := by
  have h : set.toList.Pairwise (fun a b => compare a b = .lt) := Std.TreeSet.ordered_toList
  exact h.imp (fun hlt => compareOfLessAndEq_eq_lt.mp hlt)

/-- The facts of an ordered set are the entries of the list that it was collected from. -/
theorem mem_toList_ofList {facts : List String} {fact : String} :
    fact ∈ (Std.TreeSet.ofList facts).toList ↔ fact ∈ facts := by
  rw [Std.TreeSet.mem_toList, Std.TreeSet.mem_ofList, List.contains_iff_mem]

/-- An ordered set answers as the list that it was collected from, though it looks at one stretch. -/
theorem alike_treeSet (facts : List String) : Alike (Std.TreeSet.ofList facts) facts where
  contains_eq fact := Std.TreeSet.contains_ofList
  value?_eq path := by
    rw [FactSet.value?_treeSet, Fact.onlyReading?_stretch (pairwise_toList _)]
    exact Fact.onlyReading?_congr (fun _ _ => mem_toList_ofList)

/-- **Collections of the same facts agree.**  Whichever kind of collection a list of facts goes into,
    every field has the value that it has among the bare list, and every statement and every predicate
    has the same truth.  The value is the same in every order in which a collection may show its facts,
    and an ordered set, which looks at one stretch only, looks at every fact with the stem of the path,
    hence at every reading, and at no other fact. -/
theorem collected_facts_agree (facts : List String) :
    (∀ path,
      FactSet.value? (RollOptions.ofList facts) path = FactSet.value? facts path ∧
      FactSet.value? (Std.HashSet.ofList facts) path = FactSet.value? facts path ∧
      FactSet.value? (Std.TreeSet.ofList facts) path = FactSet.value? facts path) ∧
    (∀ statement : Statement,
      statement.holds (RollOptions.ofList facts) = statement.holds facts ∧
      statement.holds (Std.HashSet.ofList facts) = statement.holds facts ∧
      statement.holds (Std.TreeSet.ofList facts) = statement.holds facts) ∧
    (∀ predicate : Predicate,
      predicate.holds (RollOptions.ofList facts) = predicate.holds facts ∧
      predicate.holds (Std.HashSet.ofList facts) = predicate.holds facts ∧
      predicate.holds (Std.TreeSet.ofList facts) = predicate.holds facts) ∧
    (∀ path shown, (∀ fact, fact ∈ shown ↔ fact ∈ facts) →
      Fact.onlyReading? path shown = FactSet.value? facts path) ∧
    (∀ path, Fact.stretch path (Std.TreeSet.ofList facts).toList
      = (Std.TreeSet.ofList facts).toList.filter (Fact.hasStem path)) ∧
    (∀ path fact, (Fact.reading? path fact).isSome →
      (fact ∈ Fact.stretch path (Std.TreeSet.ofList facts).toList ↔ fact ∈ facts)) := by
  have hroll := alike_rollOptions facts
  have hhash := alike_hashSet facts
  have htree := alike_treeSet facts
  refine ⟨fun path => ⟨hroll.value?_eq path, hhash.value?_eq path, htree.value?_eq path⟩,
    fun statement => ⟨hroll.statement_holds_eq statement, hhash.statement_holds_eq statement,
      htree.statement_holds_eq statement⟩,
    fun predicate => ⟨hroll.predicate_holds_eq predicate, hhash.predicate_holds_eq predicate,
      htree.predicate_holds_eq predicate⟩,
    fun path shown hshown => Fact.onlyReading?_congr (fun fact _ => hshown fact),
    fun path => Fact.stretch_eq_filter (pairwise_toList _), fun path fact hfact => ?_⟩
  rw [Fact.stretch_eq_filter (pairwise_toList _), List.mem_filter, mem_toList_ofList]
  exact ⟨fun h => h.1, fun h => ⟨h, Fact.hasStem_of_reading? hfact⟩⟩

end RollConditions
