/-
  Roll options are the set of what was put into them.

  A HISTORY is any number of operations: one fact is put in, all facts of a list are, or the options are
  collected anew from a list.  Beside the options runs a set that forgets order and repetitions at once
  (`accumulated`).

    1. THE STEP.  `Stores` says that options and a set have the same facts.  Every operation keeps that
       (`Stores.apply`), hence every history does, by induction over it (`stores_after`).
    2. THE READERS.  Of options that store a set every reader answers from the set alone.  Nothing here speaks
       of a history any more.
    3. IN ANY ORDER.  A collection may show its facts in whatever order it has them.  So what is written out
       is read back, and a condition is tested, in every order, with repetitions or without.
-/
import Mathlib.Data.Finset.Card
import Mathlib.Data.Finset.Lattice.Basic
import RollConditions.Config.Reader
import RollConditions.Proofs.TestOutcome
import RollConditions.Proofs.WrittenJson

namespace RollConditions

namespace RollOptions

/-! ## Histories -/

/-- Something that is done to roll options. -/
inductive Operation where
  /-- One fact is put in. -/
  | insert (fact : String)
  /-- Every fact of a list is put in. -/
  | extend (facts : List String)
  /-- The options are collected anew from a list. -/
  | replace (facts : List String)

/-- The options after an operation. -/
def Operation.apply (options : RollOptions) : Operation → RollOptions
  | insert fact => (options.insertIsNew fact).1
  | extend facts => options.extend facts
  | replace facts => ofList facts

/-- The set after an operation. -/
def Operation.accumulate (set : Finset String) : Operation → Finset String
  | insert fact => set ∪ {fact}
  | extend facts => set ∪ facts.toFinset
  | replace facts => facts.toFinset

/-- The options after a history, which begins with no facts. -/
def after (history : List Operation) : RollOptions := history.foldl Operation.apply empty

/-- The set that a history accumulates. -/
def accumulated (history : List Operation) : Finset String := history.foldl Operation.accumulate ∅

/-- Options and a set have the same facts. -/
def Stores (options : RollOptions) (set : Finset String) : Prop :=
  ∀ fact, fact ∈ options.sorted ↔ fact ∈ set

theorem stores_empty : Stores empty ∅ := by
  intro fact
  simp [empty]

/-- **One operation** does to the options what it does to the set. -/
theorem Stores.apply {options : RollOptions} {set : Finset String} (h : Stores options set)
    (operation : Operation) : Stores (operation.apply options) (operation.accumulate set) := by
  intro fact
  cases operation with
  | insert new =>
    show fact ∈ insertAscending new options.sorted ↔ fact ∈ set ∪ {new}
    rw [mem_insertAscending, Finset.mem_union, Finset.mem_singleton, h fact, or_comm]
  | extend facts =>
    show fact ∈ (options.extend facts).sorted ↔ fact ∈ set ∪ facts.toFinset
    rw [mem_sorted_extend, Finset.mem_union, List.mem_toFinset, h fact]
  | replace facts =>
    show fact ∈ (ofList facts).sorted ↔ fact ∈ facts.toFinset
    rw [mem_sorted_ofList, List.mem_toFinset]

/-- **After every history** the options store what was accumulated. -/
theorem stores_after (history : List Operation) : Stores (after history) (accumulated history) := by
  -- from any beginning, since the first operation changes where the rest begins
  have hrun : ∀ (options : RollOptions) (set : Finset String), Stores options set →
      Stores (history.foldl Operation.apply options) (history.foldl Operation.accumulate set) := by
    induction history with
    | nil => exact fun _ _ h => h
    | cons operation rest ih => exact fun options set h => ih _ _ (h.apply operation)
  exact hrun empty ∅ stores_empty

/-! ## Readers -/

namespace Stores

variable {options other : RollOptions} {set set' : Finset String}

theorem contains_iff (h : Stores options set) (fact : String) :
    options.contains fact = true ↔ fact ∈ set := by
  rw [contains, List.contains_iff_mem]
  exact h fact

/-- A fact is new exactly if it is not in the set. -/
theorem insertIsNew_eq (h : Stores options set) (fact : String) :
    options.insertIsNew fact = (options.insert fact, decide (fact ∉ set)) := by
  have hcontains : options.contains fact = decide (fact ∈ set) :=
    Bool.eq_iff_iff.mpr ((h.contains_iff fact).trans decide_eq_true_iff.symm)
  rw [insertIsNew, hcontains, decide_not]

theorem toFinset_sorted (h : Stores options set) : options.sorted.toFinset = set := by
  ext fact
  rw [List.mem_toFinset]
  exact h fact

/-- No fact is kept twice, so there are as many as the set has members. -/
theorem size_eq (h : Stores options set) : options.size = set.card := by
  have hnodup : options.sorted.Nodup := options.ascending.imp String.ne_of_lt
  rw [size, ← h.toFinset_sorted, List.toFinset_card_of_nodup hnodup]

theorem isEmpty_iff (h : Stores options set) : options.isEmpty = true ↔ set = ∅ := by
  rw [isEmpty, List.isEmpty_iff, ← h.toFinset_sorted, List.toFinset_eq_empty_iff]

/-- Options are equal exactly if their sets are. -/
theorem eq_iff (h : Stores options set) (h' : Stores other set') : options = other ↔ set = set' := by
  constructor
  · rintro rfl
    rw [← h.toFinset_sorted, h'.toFinset_sorted]
  · rintro rfl
    exact eq_of_mem_iff (fun fact => (h fact).trans (h' fact).symm)

/-- The facts in order are the one ascending list of the members of the set. -/
theorem eq_sorted_iff (h : Stores options set) {shown : List String} : shown = options.sorted ↔
    shown.Pairwise (fun a b => textBytes a < textBytes b) ∧ ∀ fact, fact ∈ shown ↔ fact ∈ set := by
  simp only [← lt_iff_textBytes_lt]
  constructor
  · rintro rfl
    exact ⟨options.ascending, h⟩
  · rintro ⟨hascending, hmem⟩
    exact hascending.eq_of_mem_iff options.ascending (fun fact => (hmem fact).trans (h fact).symm)

/-- A field has a value exactly if one member of the set is a reading of it and no other one is. -/
theorem value?_eq_some_iff (h : Stores options set) {path : String} {value : Int} :
    FactSet.value? options path = some value ↔
      ∃ fact ∈ set, Fact.reading? path fact = some value ∧
        ∀ other ∈ set, (Fact.reading? path other).isSome → other = fact := by
  show Fact.onlyReading? path options.sorted = some value ↔ _
  rw [Fact.onlyReading?_eq_some_iff, Fact.IsOnlyReading]
  simp only [h _]

/-- Options collected from the members of the set, in any order and with any repetitions. -/
theorem ofList_eq (h : Stores options set) {shown : List String}
    (hshown : ∀ fact, fact ∈ shown ↔ fact ∈ set) : ofList shown = options :=
  eq_of_mem_iff (fun fact => mem_sorted_ofList.trans ((hshown fact).trans (h fact).symm))

end Stores

/-! ## Written and read back -/

open Document

/-- The texts of a list are read back one by one. -/
theorem readTexts_written (texts : List String) :
    strictJson.dialect.readTexts strictJson.dialect.depthLimit (Json.ofTexts texts).written = .ok texts := by
  have hitems : ∀ texts : List String,
      (Json.writtenItems (texts.map .text)).mapM strictJson.dialect.readText = .ok texts := by
    intro texts
    induction texts with
    | nil => rfl
    | cons text rest ih =>
      have htext : strictJson.dialect.readText (Json.text text).written = .ok text :=
        Json.text_pieces text
      rw [List.map_cons, Json.writtenItems, List.mapM_cons, htext, ih]
      rfl
  show (do
    let values ← (Json.writtenItems (texts.map .text)).mapM strictJson.dialect.readText
    Dialect.close true
    return values) = _
  rw [hitems]
  rfl

/-- A list of texts is read as the options that are collected from it. -/
theorem parse_compact_ofTexts (texts : List String) :
    parse strictJson (Json.ofTexts texts).compact = .ok (ofList texts) := by
  rw [parse, Format.read, source_compact]
  show (do
    let options ← (strictJson.dialect.readTexts strictJson.dialect.depthLimit
      (Json.ofTexts texts).written).map ofList
    Dialect.close true
    return options) = _
  rw [readTexts_written]
  rfl

/-- What is written of the members of a set, in any order, is read back as the options that store it. -/
theorem Stores.parse_compact_eq {options : RollOptions} {set : Finset String} (h : Stores options set)
    {shown : List String} (hshown : ∀ fact, fact ∈ shown ↔ fact ∈ set) :
    parse strictJson (Json.ofTexts shown).compact = .ok options := by
  rw [parse_compact_ofTexts, h.ofList_eq hshown]

/-! ## The set behind the options -/

/-- The options after a history are the set that was accumulated: every reader answers from the set. -/
structure IsAccumulatedSet (history : List Operation) : Prop where
  /-- A fact is new exactly if the set lacks it, and putting it in goes on with the history. -/
  insertIsNew_eq : ∀ fact, (after history).insertIsNew fact
    = (after (history ++ [.insert fact]), decide (fact ∉ accumulated history))
  /-- There are as many facts as the set has members. -/
  size_eq : (after history).size = (accumulated history).card
  isEmpty_iff : (after history).isEmpty = true ↔ accumulated history = ∅
  /-- A fact is among the options exactly if it is a member. -/
  contains_iff : ∀ fact, (after history).contains fact = true ↔ fact ∈ accumulated history
  /-- In order, the facts are the one list of the members that ascends by bytes. -/
  eq_sorted_iff : ∀ shown, shown = (after history).sorted ↔
    shown.Pairwise (fun a b => textBytes a < textBytes b) ∧
      ∀ fact, fact ∈ shown ↔ fact ∈ accumulated history
  /-- Options are equal exactly if their sets are. -/
  eq_iff : ∀ other, after history = after other ↔ accumulated history = accumulated other
  /-- What is written of the options is read back as options that are equal. -/
  read_back : parse strictJson (after history).toJson.compact = .ok (after history)
  /-- A field has a value exactly if one member is a reading of it and no other one is. -/
  value?_eq_some_iff : ∀ path value, FactSet.value? (after history) path = some value ↔
    ∃ fact ∈ accumulated history, Fact.reading? path fact = some value ∧
      ∀ other ∈ accumulated history, (Fact.reading? path other).isSome → other = fact
  /-- A list with the same facts, in any order and with any repetitions, is written, read and tested alike. -/
  any_order : ∀ shown : List String, (∀ fact, fact ∈ shown ↔ fact ∈ accumulated history) →
    parse strictJson (Json.ofTexts shown).compact = .ok (after history) ∧
    (∀ path, FactSet.value? (after history) path = FactSet.value? shown path) ∧
    ∀ predicate : Predicate, predicate.holds (after history) = predicate.holds shown

/-- **Roll options are the set that was accumulated in them,** whatever was done to them to get there. -/
theorem options_are_accumulated_set (history : List Operation) : IsAccumulatedSet history where
  insertIsNew_eq fact := by
    have hafter : after (history ++ [.insert fact]) = (after history).insert fact := by
      rw [after, List.foldl_append]
      rfl
    rw [hafter]
    exact (stores_after history).insertIsNew_eq fact
  size_eq := (stores_after history).size_eq
  isEmpty_iff := (stores_after history).isEmpty_iff
  contains_iff := (stores_after history).contains_iff
  eq_sorted_iff _ := (stores_after history).eq_sorted_iff
  eq_iff other := (stores_after history).eq_iff (stores_after other)
  -- the facts in order are one list of the members among others
  read_back := (stores_after history).parse_compact_eq (stores_after history)
  value?_eq_some_iff _ _ := (stores_after history).value?_eq_some_iff
  any_order shown hshown := by
    have halike : Alike (after history) shown :=
      alike_of_mem_sorted_iff (fun fact => (stores_after history fact).trans (hshown fact).symm)
    exact ⟨(stores_after history).parse_compact_eq hshown, halike.value?_eq, halike.predicate_holds_eq⟩

/-- Two levels are put in, and both are gone when the options are collected anew. -/
def threeLevels : List Operation :=
  [.insert "level:1", .extend ["level:7", "crit", "level:7"], .replace ["hit", "level:2", "hit"],
    .insert "hit", .extend ["level:2", "armed"]]

example : (after threeLevels).sorted = ["armed", "hit", "level:2"] := by decide

/-- The facts that are left, in another order and one of them twice. -/
def levelTwice : List String := ["level:2", "hit", "level:2", "armed"]

/-- Only the last level is left, and it counts once, however often it comes in a list. -/
theorem last_level_is_left :
    (∀ fact, fact ∈ levelTwice ↔ fact ∈ accumulated threeLevels) ∧
    parse strictJson (Json.ofTexts levelTwice).compact = .ok (after threeLevels) ∧
    FactSet.value? (after threeLevels) "level" = some 2 := by
  have hset : accumulated threeLevels = levelTwice.toFinset := by decide
  have hshown : ∀ fact, fact ∈ levelTwice ↔ fact ∈ accumulated threeLevels := by
    intro fact
    rw [hset, List.mem_toFinset]
  obtain ⟨hparse, hvalue, -⟩ := (options_are_accumulated_set threeLevels).any_order levelTwice hshown
  refine ⟨hshown, hparse, ?_⟩
  rw [hvalue]
  decide

end RollOptions

end RollConditions
