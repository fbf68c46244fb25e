/-
  A statement depends on the facts that it mentions, and on no others.

  A statement mentions facts by name, in its atoms, and fields by path, in the operands of its comparisons.
  A field is about the facts that are readings of its path: `foo:3` is one of `foo`, while `food:9` and
  `foo:bar:3` are none, although they begin alike.  Two sets that agree on every fact that a statement
  mentions or that is a reading of a field of it are not told apart by the statement.

    1. LISTS.  For plain lists this is an induction over the statement (`holds_eq_of_agreeOn`); the value
       of a field is that of its only reading, so it depends on the readings alone.
    2. COLLECTIONS.  Every kind of collection answers as the list of its facts (`LawfulFactSet`), an ordered
       set too, though it looks at one stretch of them.  So what is true of lists is true of two
       collections of any kinds.
-/
import RollConditions.Proofs.Meaning

namespace RollConditions

/-! ## What a statement mentions -/

/-- What a statement asks a set of facts about. -/
inductive Mention where
  /-- Whether a fact is present. -/
  | fact (fact : String)
  /-- The value of a field. -/
  | field (path : String)
deriving DecidableEq

/-- The facts that an answer depends on: the fact itself, or the readings of the field. -/
def Mention.Concerns : Mention → String → Prop
  | fact wanted, other => other = wanted
  | field path, other => (Fact.reading? path other).isSome = true

/-- What an operand asks about: a field, or nothing. -/
def Operand.mentions : Operand → List Mention
  | field path => [.field path]
  | literal _ => []

namespace Statement

mutual

/-- What a statement asks about: the facts of its atoms, and the fields of its comparisons. -/
def mentions : Statement → List Mention
  | atom fact => [.fact fact]
  | not inner => mentions inner
  | group _ items => listMentions items
  | implication condition conclusion => mentions condition ++ mentions conclusion
  | comparison _ left right => left.mentions ++ right.mentions

/-- What the statements of a list ask about. -/
def listMentions : List Statement → List Mention
  | [] => []
  | item :: rest => mentions item ++ listMentions rest

end

/-- A list asks about what its items ask about. -/
@[simp] theorem listMentions_eq_flatMap (items : List Statement) :
    listMentions items = items.flatMap mentions := by
  induction items with
  | nil => rfl
  | cons item rest ih => rw [listMentions, ih, List.flatMap_cons]

example : (implication (atom "crit") (group .any [not (atom "hit"),
    comparison .greater (.field "foo") (.literal (.ofInt 2))])).mentions
      = [.fact "crit", .fact "hit", .field "foo"] := rfl

end Statement

/-- What the statements of a predicate ask about. -/
def Predicate.mentions (predicate : Predicate) : List Mention := Statement.listMentions predicate.statements

/-! ## Lists that agree on what is mentioned -/

/-- Two lists have the same facts among those that some answers depend on. -/
def AgreeOn (mentions : List Mention) (facts others : List String) : Prop :=
  ∀ mention ∈ mentions, ∀ fact, mention.Concerns fact → (fact ∈ facts ↔ fact ∈ others)

namespace AgreeOn

variable {mentions more : List Mention} {facts others : List String}

/-- Collections agree on all that is mentioned if they agree on each part of it. -/
theorem append_iff : AgreeOn (mentions ++ more) facts others ↔
    AgreeOn mentions facts others ∧ AgreeOn more facts others :=
  List.forall_mem_append

/-- What is agreed on for a list of statements is agreed on for each of them. -/
theorem of_mem {items : List Statement} (h : AgreeOn (items.flatMap Statement.mentions) facts others)
    {item : Statement} (hitem : item ∈ items) : AgreeOn item.mentions facts others :=
  fun mention hmention => h mention (List.mem_flatMap.mpr ⟨item, hitem, hmention⟩)

theorem contains_eq {fact : String} (h : AgreeOn [.fact fact] facts others) :
    facts.contains fact = others.contains fact := by
  have hfact : fact ∈ facts ↔ fact ∈ others := h (.fact fact) List.mem_cons_self fact rfl
  rw [Bool.eq_iff_iff, List.contains_iff_mem, List.contains_iff_mem, hfact]

/-- An operand stands for the same number. -/
theorem operand_value?_eq {operand : Operand} (h : AgreeOn operand.mentions facts others) :
    operand.value? facts = operand.value? others := by
  cases operand with
  | field path =>
    have hreadings : Fact.onlyReading? path facts = Fact.onlyReading? path others :=
      Fact.onlyReading?_congr (h (.field path) List.mem_cons_self)
    show (Fact.onlyReading? path facts).map Binary64.ofInt
      = (Fact.onlyReading? path others).map Binary64.ofInt
    rw [hreadings]
  | literal value => rfl

end AgreeOn

/-- **Only what is mentioned counts.**  By induction on the statement: a part mentions nothing that the
    whole does not mention. -/
theorem Statement.holds_eq_of_agreeOn {facts others : List String} (statement : Statement) :
    AgreeOn statement.mentions facts others → statement.holds facts = statement.holds others := by
  induction statement with
  | atom fact => exact fun h => h.contains_eq
  | not inner ih =>
    intro h
    rw [holds, holds, ih h]
  | group connective items ih =>
    intro h
    rw [mentions, listMentions_eq_flatMap] at h
    have hitems : ∀ item ∈ items, item.holds facts = item.holds others :=
      fun item hitem => ih item hitem (h.of_mem hitem)
    rw [holds, holds, truths_eq_map, truths_eq_map, List.map_congr_left hitems]
  | implication condition conclusion ihcondition ihconclusion =>
    intro h
    obtain ⟨hcondition, hconclusion⟩ := AgreeOn.append_iff.mp h
    rw [holds, holds, ihcondition hcondition, ihconclusion hconclusion]
  | comparison relation left right =>
    intro h
    obtain ⟨hleft, hright⟩ := AgreeOn.append_iff.mp h
    rw [holds, holds, Comparison.holdsOf, Comparison.holdsOf, hleft.operand_value?_eq,
      hright.operand_value?_eq]

/-- A predicate holds alike of lists that agree on what it mentions. -/
theorem Predicate.holds_eq_of_agreeOn {facts others : List String} {predicate : Predicate}
    (h : AgreeOn predicate.mentions facts others) : predicate.holds facts = predicate.holds others := by
  rw [mentions, Statement.listMentions_eq_flatMap] at h
  have hstatements : ∀ statement ∈ predicate.statements,
      statement.holds facts = statement.holds others :=
    fun statement hstatement => statement.holds_eq_of_agreeOn (h.of_mem hstatement)
  unfold holds
  rw [Bool.eq_iff_iff, List.all_eq_true, List.all_eq_true]
  constructor
  · intro hall statement hmem
    rw [← hstatements statement hmem]
    exact hall statement hmem
  · intro hall statement hmem
    rw [hstatements statement hmem]
    exact hall statement hmem

/-! ## Collections of every kind -/

/-- A kind of collection that answers as the plain list of its facts does. -/
class LawfulFactSet (σ : Type) [FactSet σ] : Prop where
  /-- No condition tells a collection from the list of its facts. -/
  alike_facts : ∀ collection : σ, Alike collection (FactSet.facts collection)

instance : LawfulFactSet (List String) := ⟨fun _ => ⟨fun _ => rfl, fun _ => rfl⟩⟩

instance : LawfulFactSet RollOptions := ⟨alike_sorted⟩

instance : LawfulFactSet (Std.HashSet String) := ⟨alike_hashSet_toList⟩

/-- The facts of a hashed set are those that it lists. -/
theorem FactSet.facts_hashSet (set : Std.HashSet String) : FactSet.facts set = set.toList := rfl

instance : LawfulFactSet (Std.TreeSet String) := ⟨alike_treeSet_toList⟩

/-- So are the facts of a sorted set. -/
theorem FactSet.facts_treeSet (set : Std.TreeSet String) : FactSet.facts set = set.toList := rfl

section collections

variable {σ τ : Type} [FactSet σ] [FactSet τ] [LawfulFactSet σ] [LawfulFactSet τ]
  {collection : σ} {other : τ}

/-- A fact is in a collection if it is one of the facts of it. -/
theorem FactSet.contains_iff_mem_facts {fact : String} :
    FactSet.contains collection fact = true ↔ fact ∈ FactSet.facts collection := by
  rw [(LawfulFactSet.alike_facts collection).contains_eq]
  exact List.contains_iff_mem

/-- Agreement, said of atoms and of fields apart. -/
theorem agreeOn_facts {mentions : List Mention}
    (hfacts : ∀ fact, .fact fact ∈ mentions →
      FactSet.contains collection fact = FactSet.contains other fact)
    (hfields : ∀ path, .field path ∈ mentions → ∀ fact, (Fact.reading? path fact).isSome = true →
      (fact ∈ FactSet.facts collection ↔ fact ∈ FactSet.facts other)) :
    AgreeOn mentions (FactSet.facts collection) (FactSet.facts other) := by
  intro mention hmention fact hfact
  cases mention with
  | fact wanted =>
    obtain rfl : fact = wanted := hfact
    rw [← FactSet.contains_iff_mem_facts, ← FactSet.contains_iff_mem_facts, hfacts fact hmention]
  | field path => exact hfields path hmention fact hfact

/-- A statement holds alike of collections of any two kinds that agree on what it mentions. -/
theorem Statement.holds_eq_of_agreeOn_facts {statement : Statement}
    (h : AgreeOn statement.mentions (FactSet.facts collection) (FactSet.facts other)) :
    statement.holds collection = statement.holds other := by
  rw [(LawfulFactSet.alike_facts collection).statement_holds_eq,
    (LawfulFactSet.alike_facts other).statement_holds_eq, statement.holds_eq_of_agreeOn h]

/-- So does a predicate. -/
theorem Predicate.holds_eq_of_agreeOn_facts {predicate : Predicate}
    (h : AgreeOn predicate.mentions (FactSet.facts collection) (FactSet.facts other)) :
    predicate.holds collection = predicate.holds other := by
  rw [(LawfulFactSet.alike_facts collection).predicate_holds_eq,
    (LawfulFactSet.alike_facts other).predicate_holds_eq, holds_eq_of_agreeOn h]

end collections

/-- **Only the facts that are mentioned decide.**

    Take two collections, of one kind or of two.  A statement holds of both or of neither if every fact
    that it asks for by name is in both or in neither, and if for every field in it the readings of the
    field in the one are those in the other.  The same is true of a predicate.  So it makes no difference to a
    predicate if facts come or go that it does not ask for and that are readings of none of its fields. -/
theorem mentioned_facts_decide {σ τ : Type} [FactSet σ] [FactSet τ] [LawfulFactSet σ] [LawfulFactSet τ]
    (collection : σ) (other : τ) :
    (∀ statement : Statement,
      (∀ fact, .fact fact ∈ statement.mentions →
        FactSet.contains collection fact = FactSet.contains other fact) →
      (∀ path, .field path ∈ statement.mentions → ∀ fact, (Fact.reading? path fact).isSome = true →
        (fact ∈ FactSet.facts collection ↔ fact ∈ FactSet.facts other)) →
      statement.holds collection = statement.holds other) ∧
    (∀ predicate : Predicate,
      (∀ fact, .fact fact ∈ predicate.mentions →
        FactSet.contains collection fact = FactSet.contains other fact) →
      (∀ path, .field path ∈ predicate.mentions → ∀ fact, (Fact.reading? path fact).isSome = true →
        (fact ∈ FactSet.facts collection ↔ fact ∈ FactSet.facts other)) →
      predicate.holds collection = predicate.holds other) ∧
    (∀ (predicate : Predicate) (more : List String),
      (∀ fact ∈ more, ∀ mention ∈ predicate.mentions, ¬ mention.Concerns fact) →
      (∀ fact, fact ∈ FactSet.facts other ↔ fact ∈ FactSet.facts collection ∨ fact ∈ more) →
      predicate.holds collection = predicate.holds other) := by
  refine ⟨?_, ?_, ?_⟩
  · intro statement hfacts hfields
    exact Statement.holds_eq_of_agreeOn_facts (agreeOn_facts hfacts hfields)
  · intro predicate hfacts hfields
    exact Predicate.holds_eq_of_agreeOn_facts (agreeOn_facts hfacts hfields)
  · intro predicate more hmore hother
    apply Predicate.holds_eq_of_agreeOn_facts
    intro mention hmention fact hconcerns
    -- a fact that matters is none of those that came
    have hnot : fact ∉ more := fun hmem => hmore fact hmem mention hmention hconcerns
    rw [hother]
    exact ⟨Or.inl, fun h => h.resolve_right hnot⟩

/-- Neither facts that only begin like a reading nor facts that are not asked for change a comparison,
    from an ordered set to a hashed one: the level keeps its value, and the comparison goes on holding. -/
theorem comparison_ignores_facts_that_begin_alike :
    FactSet.value? (Std.TreeSet.ofList ["foo:3"] : Std.TreeSet String) "foo" = some 3 ∧
    (Statement.comparison .greaterEqual (.field "foo") (.literal (.ofInt 3))).holds
        (Std.TreeSet.ofList ["foo:3"])
      = (Statement.comparison .greaterEqual (.field "foo") (.literal (.ofInt 3))).holds
        (Std.HashSet.ofList ["food:9", "foo:bar:3", "foo:3", "crit", "foo:"]) ∧
    (Statement.comparison .greaterEqual (.field "foo") (.literal (.ofInt 3))).holds
        (Std.HashSet.ofList ["food:9", "foo:bar:3", "foo:3", "crit", "foo:"]) = true := by
  have hsame : (Statement.comparison .greaterEqual (.field "foo") (.literal (.ofInt 3))).holds
        (Std.TreeSet.ofList ["foo:3"])
      = (Statement.comparison .greaterEqual (.field "foo") (.literal (.ofInt 3))).holds
        (Std.HashSet.ofList ["food:9", "foo:bar:3", "foo:3", "crit", "foo:"]) := by
    refine (mentioned_facts_decide _ _).1 _ ?_ ?_
    · intro fact hfact
      simp [Statement.mentions, Operand.mentions] at hfact
    · intro path hpath fact hreading
      obtain rfl : path = "foo" := by simpa [Statement.mentions, Operand.mentions] using hpath
      rw [FactSet.facts_treeSet, FactSet.facts_hashSet, mem_toList_ofList, Std.HashSet.mem_toList,
        Std.HashSet.mem_ofList, List.contains_iff_mem]
      constructor
      · intro hmem
        simp [List.mem_singleton.mp hmem]
      · intro hmem
        have hcases : fact = "food:9" ∨ fact = "foo:bar:3" ∨ fact = "foo:3" ∨ fact = "crit" ∨
            fact = "foo:" := by simpa using hmem
        rcases hcases with rfl | rfl | rfl | rfl | rfl
        · exact absurd hreading (by decide)
        · exact absurd hreading (by decide)
        · exact List.mem_singleton.mpr rfl
        · exact absurd hreading (by decide)
        · exact absurd hreading (by decide)
  have halike := alike_treeSet ["foo:3"]
  refine ⟨(halike.value?_eq "foo").trans (by decide), hsame, hsame.symm.trans ?_⟩
  exact (halike.statement_holds_eq _).trans (by decide +kernel)

end RollConditions
