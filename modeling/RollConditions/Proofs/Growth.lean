/-
  What more facts can change.

  Facts come to a collection when it is merged with another one, as a named set is with the base facts.  Two
  things can be said of everything that was true before.

    1. FIELDS.  A field that has a value keeps it, or loses it to a second reading among the new facts; it
       never changes to another value.  A field with two readings has no value, and never gets one.
    2. ATOMS.  Each atom of a statement stands under some negations (`negations`): those of a negation, of
       the connective that asks for none, and of the condition of an implication.  If their number is even
       for every atom, a statement that holds goes on holding; if it is odd for every atom, one that does
       not hold goes on not holding.  A negation exchanges the two, so the parity is a parameter of what is
       said of a statement (`HasParity`) and of the way that truth leads (`Leads`), and one induction on the
       statement shows both (`holds_of_growth`).

  The second is false of statements that ask for exactly one, since a second one may come to hold, and of
  comparisons, by the first.
-/
import Mathlib.Algebra.Ring.Parity
import RollConditions.Config.Basic
import RollConditions.Proofs.FieldValue

namespace RollConditions

/-! ## Atoms and the negations above them -/

/-- How often a connective negates its items. -/
def Connective.negates : Connective → Nat
  | none => 1
  | _ => 0

namespace Statement

mutual

/-- For each atom of a statement, from left to right, the number of negations that it stands under. -/
def negations : Statement → List Nat
  | atom _ => [0]
  | not inner => (negations inner).map (· + 1)
  | group connective items => (listNegations items).map (· + connective.negates)
  | implication condition conclusion => (negations condition).map (· + 1) ++ negations conclusion
  | comparison _ _ _ => []

/-- The negations above the atoms of the statements of a list. -/
def listNegations : List Statement → List Nat
  | [] => []
  | item :: rest => negations item ++ listNegations rest

end

mutual

/-- Whether a statement asks nowhere for exactly one of a list, and compares nothing. -/
def isPlain : Statement → Bool
  | atom _ => true
  | not inner => isPlain inner
  | group connective items => connective != .one && listIsPlain items
  | implication condition conclusion => isPlain condition && isPlain conclusion
  | comparison _ _ _ => false

/-- Whether every statement of a list is plain. -/
def listIsPlain : List Statement → Bool
  | [] => true
  | item :: rest => isPlain item && listIsPlain rest

end

/-- The negations of a list are those of its items, one item after the other. -/
@[simp] theorem listNegations_eq_flatMap (items : List Statement) :
    listNegations items = items.flatMap negations := by
  induction items with
  | nil => rfl
  | cons item rest ih => rw [listNegations, ih, List.flatMap_cons]

/-- A list is plain if all its items are. -/
@[simp] theorem listIsPlain_eq_all (items : List Statement) : listIsPlain items = items.all isPlain := by
  induction items with
  | nil => rfl
  | cons item rest ih => rw [listIsPlain, ih, List.all_cons]

example : (implication (group .none [atom "crit", not (atom "hit")]) (atom "miss")).negations
    = [2, 3, 0] := rfl

/-! ## Statements under growth

    First what each connective says as a proposition, then what the parity of a statement says of its
    parts, then how a connective hands on the way that its parts lead. -/

section connectives

variable {σ : Type} [FactSet σ] {facts : σ} {items : List Statement}

/-- A negation holds just if what it negates does not. -/
theorem holds_not_iff {inner : Statement} :
    (not inner).holds facts = true ↔ ¬ inner.holds facts = true := by
  rw [holds, Bool.not_eq_true', Bool.not_eq_true]

/-- An implication holds just if its condition leads to its conclusion. -/
theorem holds_implication_iff {condition conclusion : Statement} :
    (implication condition conclusion).holds facts = true ↔
      (condition.holds facts = true → conclusion.holds facts = true) := by
  rw [holds, Bool.or_eq_true, Bool.not_eq_true', ← Bool.not_eq_true, imp_iff_not_or]

/-- All of no items hold, so the empty list holds here and not under `any`. -/
theorem holds_group_all_iff :
    (group .all items).holds facts = true ↔ ∀ item ∈ items, item.holds facts = true := by
  simp [holds, Connective.holds]

/-- One item that holds is enough. -/
theorem holds_group_any_iff :
    (group .any items).holds facts = true ↔ ∃ item ∈ items, item.holds facts = true := by
  simp [holds, Connective.holds]

/-- None of the items holds: each of them is negated. -/
theorem holds_group_none_iff :
    (group .none items).holds facts = true ↔ ∀ item ∈ items, ¬ item.holds facts = true := by
  simp [holds, Connective.holds]

end connectives

/-- Each atom stands under an even number of negations, or each under an odd one. -/
def HasParity (odd : Bool) (statement : Statement) : Prop :=
  ∀ n ∈ statement.negations, n % 2 = odd.toNat

section parity

variable {odd : Bool} {inner condition conclusion : Statement} {connective : Connective}
  {items : List Statement}

/-- One more negation exchanges even and odd. -/
theorem succ_mod_two_eq_iff {n : Nat} : (n + 1) % 2 = odd.toNat ↔ n % 2 = (!odd).toNat := by
  cases odd <;> simp <;> omega

/-- The even parity in words. -/
theorem hasParity_false_iff {statement : Statement} :
    statement.HasParity false ↔ ∀ n ∈ statement.negations, Even n := by
  simp only [HasParity, Nat.even_iff, Bool.toNat_false]

/-- The odd parity in words. -/
theorem hasParity_true_iff {statement : Statement} :
    statement.HasParity true ↔ ∀ n ∈ statement.negations, Odd n := by
  simp only [HasParity, Nat.odd_iff, Bool.toNat_true]

/-- A negation has the other parity than what it negates. -/
theorem hasParity_not_iff : (not inner).HasParity odd ↔ inner.HasParity (!odd) := by
  simp only [HasParity, negations, List.forall_mem_map, succ_mod_two_eq_iff]

/-- The condition of an implication is negated, its conclusion is not. -/
theorem hasParity_implication_iff :
    (implication condition conclusion).HasParity odd ↔
      condition.HasParity (!odd) ∧ conclusion.HasParity odd := by
  simp only [HasParity, negations, List.forall_mem_append, List.forall_mem_map, succ_mod_two_eq_iff]

/-- Asking for none negates every item. -/
theorem hasParity_group_none_iff :
    (group .none items).HasParity odd ↔ ∀ item ∈ items, item.HasParity (!odd) := by
  simp only [HasParity, negations, Connective.negates, listNegations_eq_flatMap,
    List.forall_mem_map, List.forall_mem_flatMap, succ_mod_two_eq_iff]

/-- The other connectives leave their items as they are. -/
theorem hasParity_group_iff (h : connective.negates = 0) :
    (group connective items).HasParity odd ↔ ∀ item ∈ items, item.HasParity odd := by
  simp only [HasParity, negations, h, listNegations_eq_flatMap, List.forall_mem_map,
    List.forall_mem_flatMap, Nat.add_zero]

end parity

/-- One thing leads to another, or the other way round. -/
def Leads : Bool → Prop → Prop → Prop
  | false, first, later => first → later
  | true, first, later => later → first

namespace Leads

variable {back : Bool} {first later conclusion conclusion' : Prop}

/-- A negation turns the way round. -/
theorem not (h : Leads (!back) first later) : Leads back (¬ first) (¬ later) := by
  cases back with
  | false => exact mt h
  | true => exact mt h

/-- An implication goes the way of its conclusion, and against that of its condition. -/
theorem implies (h : Leads (!back) first later) (hconclusion : Leads back conclusion conclusion') :
    Leads back (first → conclusion) (later → conclusion') := by
  cases back with
  | false => exact fun himplies hlater => hconclusion (himplies (h hlater))
  | true => exact fun himplies hfirst => hconclusion (himplies (h hfirst))

variable {items : List Statement} {here there : Statement → Prop}

/-- What all items do leads where each of them leads. -/
theorem all (h : ∀ item ∈ items, Leads back (here item) (there item)) :
    Leads back (∀ item ∈ items, here item) (∀ item ∈ items, there item) := by
  cases back with
  | false => exact fun hall item hmem => h item hmem (hall item hmem)
  | true => exact fun hall item hmem => h item hmem (hall item hmem)

/-- What some item does leads where each of them leads. -/
theorem any (h : ∀ item ∈ items, Leads back (here item) (there item)) :
    Leads back (∃ item ∈ items, here item) (∃ item ∈ items, there item) := by
  cases back with
  | false => exact fun ⟨item, hmem, hhere⟩ => ⟨item, hmem, h item hmem hhere⟩
  | true => exact fun ⟨item, hmem, hthere⟩ => ⟨item, hmem, h item hmem hthere⟩

end Leads

variable {σ τ : Type} [FactSet σ] [FactSet τ] {facts : σ} {more : τ}

/-- **Under growth** a plain statement goes on holding if all its negations are even, and goes on not holding
    if they are odd.  By induction on the statement: each connective hands the parity on to its items, and
    a negation hands on the other one. -/
theorem holds_of_growth
    (hgrowth : ∀ fact, FactSet.contains facts fact = true → FactSet.contains more fact = true)
    (statement : Statement) : statement.isPlain = true → ∀ odd, statement.HasParity odd →
      Leads odd (statement.holds facts = true) (statement.holds more = true) := by
  induction statement with
  | atom fact =>
    intro _ odd hparity
    -- there is no negation above an atom
    have hzero : 0 % 2 = odd.toNat := hparity 0 List.mem_cons_self
    cases odd with
    | false => exact hgrowth fact
    | true => exact absurd hzero (by decide)
  | not inner ih =>
    intro hplain odd hparity
    rw [holds_not_iff, holds_not_iff]
    exact (ih hplain (!odd) (hasParity_not_iff.mp hparity)).not
  | group connective items ih =>
    intro hplain odd hparity
    rw [isPlain, Bool.and_eq_true, listIsPlain_eq_all, List.all_eq_true] at hplain
    cases connective with
    | all =>
      rw [hasParity_group_iff rfl] at hparity
      rw [holds_group_all_iff, holds_group_all_iff]
      exact .all (fun item hmem => ih item hmem (hplain.2 item hmem) odd (hparity item hmem))
    | any =>
      rw [hasParity_group_iff rfl] at hparity
      rw [holds_group_any_iff, holds_group_any_iff]
      exact .any (fun item hmem => ih item hmem (hplain.2 item hmem) odd (hparity item hmem))
    | none =>
      rw [hasParity_group_none_iff] at hparity
      rw [holds_group_none_iff, holds_group_none_iff]
      exact .all (fun item hmem => (ih item hmem (hplain.2 item hmem) (!odd) (hparity item hmem)).not)
    | one => exact absurd hplain.1 (by decide)
  | implication condition conclusion ihcondition ihconclusion =>
    intro hplain odd hparity
    rw [isPlain, Bool.and_eq_true] at hplain
    obtain ⟨hcondition, hconclusion⟩ := hasParity_implication_iff.mp hparity
    rw [holds_implication_iff, holds_implication_iff]
    exact (ihcondition hplain.1 (!odd) hcondition).implies (ihconclusion hplain.2 odd hconclusion)
  | comparison relation left right =>
    intro hplain
    exact absurd hplain (by simp [isPlain])

end Statement

/-! ## Fields under growth -/

namespace Fact

variable {path : String} {facts more : List String}

/-- **Under growth** a field keeps its value, unless a new fact is a second reading of it. -/
theorem onlyReading?_of_subset (hgrowth : ∀ fact ∈ facts, fact ∈ more) {value : Int}
    (hvalue : onlyReading? path facts = some value) :
    onlyReading? path more = some value ∨
      (onlyReading? path more = none ∧
        ∃ fact ∈ more, fact ∉ facts ∧ (reading? path fact).isSome = true) := by
  obtain ⟨only, hmem, honly, hall⟩ := onlyReading?_eq_some_iff.mp hvalue
  -- either some reading is new, or all readings are those that were there before
  by_cases hnew : ∃ fact ∈ more, fact ∉ facts ∧ (reading? path fact).isSome = true
  · obtain ⟨fact, hfact, hnot, hreading⟩ := hnew
    refine Or.inr ⟨onlyReading?_eq_none_iff.mpr (Or.inr ?_), fact, hfact, hnot, hreading⟩
    refine ⟨only, hgrowth only hmem, fact, hfact, ?_, by simp [honly], hreading⟩
    rintro rfl
    exact hnot hmem
  · refine Or.inl (onlyReading?_eq_some_iff.mpr ⟨only, hgrowth only hmem, honly, ?_⟩)
    intro fact hfact hreading
    by_cases hold : fact ∈ facts
    · exact hall fact hold hreading
    · exact absurd ⟨fact, hfact, hold, hreading⟩ hnew

end Fact

section growth

variable {σ τ : Type} [FactSet σ] [FactSet τ]

/-- Two different facts of a collection are readings of a path. -/
def HasTwoReadings (collection : σ) (path : String) : Prop :=
  ∃ first second, first ≠ second ∧
    (FactSet.contains collection first = true ∧ (Fact.reading? path first).isSome = true) ∧
    (FactSet.contains collection second = true ∧ (Fact.reading? path second).isSome = true)

/-- Two readings of a field are still there when facts are added. -/
theorem HasTwoReadings.of_growth {collection : σ} {more : τ} {path : String}
    (hgrowth : ∀ fact, FactSet.contains collection fact = true → FactSet.contains more fact = true)
    (h : HasTwoReadings collection path) : HasTwoReadings more path := by
  obtain ⟨first, second, hne, ⟨hfirst, hone⟩, hsecond, htwo⟩ := h
  exact ⟨first, second, hne, ⟨hgrowth first hfirst, hone⟩, hgrowth second hsecond, htwo⟩

variable [LawfulFactSet σ] [LawfulFactSet τ]

/-- A field with two readings has no value. -/
theorem HasTwoReadings.isUnresolved {collection : σ} {path : String} (h : HasTwoReadings collection path) :
    IsUnresolved collection path := by
  obtain ⟨first, second, hne, ⟨hfirst, hone⟩, hsecond, htwo⟩ := h
  rw [isUnresolved_iff, (LawfulFactSet.alike_facts collection).value?_eq]
  exact Fact.onlyReading?_eq_none_iff.mpr (Or.inr ⟨first, FactSet.contains_iff_mem_facts.mp hfirst,
    second, FactSet.contains_iff_mem_facts.mp hsecond, hne, hone, htwo⟩)

/-- **What more facts can change.**

    Take two collections, of one kind or of two, such that the second has every fact of the first.  A
    field with a value in the first has the same value in the second, or none, and none only if a new fact
    is a reading of it.  A field with two readings in the first is unresolved in both.  A statement
    without `xor` and without comparisons that holds of the first holds of the second, if each of its
    atoms stands under an even number of negations; if each stands under an odd number, the other way
    round. -/
theorem growth_has_expected_effects (collection : σ) (more : τ)
    (hgrowth : ∀ fact, FactSet.contains collection fact = true → FactSet.contains more fact = true) :
    (∀ path value, FactSet.value? collection path = some value →
      FactSet.value? more path = some value ∨
        (FactSet.value? more path = none ∧
          ∃ fact, FactSet.contains more fact = true ∧ ¬ FactSet.contains collection fact = true ∧
            (Fact.reading? path fact).isSome = true)) ∧
    (∀ path, HasTwoReadings collection path → IsUnresolved collection path ∧ IsUnresolved more path) ∧
    (∀ statement : Statement, statement.isPlain = true →
      ((∀ n ∈ statement.negations, Even n) →
        statement.holds collection = true → statement.holds more = true) ∧
      ((∀ n ∈ statement.negations, Odd n) →
        statement.holds more = true → statement.holds collection = true)) := by
  refine ⟨?_, ?_, fun statement hplain => ?_⟩
  · intro path value hvalue
    simp only [FactSet.contains_iff_mem_facts] at hgrowth ⊢
    rw [(LawfulFactSet.alike_facts collection).value?_eq] at hvalue
    rw [(LawfulFactSet.alike_facts more).value?_eq]
    exact Fact.onlyReading?_of_subset hgrowth hvalue
  · intro path htwo
    exact ⟨htwo.isUnresolved, (htwo.of_growth hgrowth).isUnresolved⟩
  · have hleads := Statement.holds_of_growth hgrowth statement hplain
    exact ⟨fun heven => hleads false (Statement.hasParity_false_iff.mpr heven),
      fun hodd => hleads true (Statement.hasParity_true_iff.mpr hodd)⟩

end growth

/-! ## Base facts -/

/-- A named set has every base fact. -/
theorem Config.contains_of_baseFacts {config : Config} {name : String} {options : RollOptions}
    (h : config.factSet? name = some options) (fact : String)
    (hbase : FactSet.contains config.baseFacts fact = true) : FactSet.contains options fact = true := by
  obtain ⟨facts, _, rfl⟩ := Option.map_eq_some_iff.mp h
  rw [FactSet.contains_iff_mem_facts] at hbase ⊢
  exact RollOptions.mem_sorted_extend.mpr (Or.inl hbase)

/-- A configuration whose named set has a level of its own beside that of the base facts. -/
def bossConfig : Config :=
  { Config.empty with
    facts := Catalog.empty.insert "boss" ["level:4", "undead"]
    settings := ⟨["crit", "level:3"], false⟩ }

/-- In the named set the level of the base facts loses its value, and an implication that holds because
    of a base fact goes on holding. -/
theorem named_set_loses_level_of_base_facts :
    ∃ options, bossConfig.factSet? "boss" = some options ∧
      (∀ fact, FactSet.contains bossConfig.baseFacts fact = true → FactSet.contains options fact = true) ∧
      FactSet.value? bossConfig.baseFacts "level" = some 3 ∧ FactSet.value? options "level" = none ∧
      (Statement.implication (.group .none [.atom "crit"]) (.atom "undead")).holds options = true := by
  obtain ⟨options, hoptions⟩ : ∃ options, bossConfig.factSet? "boss" = some options := ⟨_, rfl⟩
  have hgrowth := Config.contains_of_baseFacts hoptions
  have hlevel : FactSet.value? bossConfig.baseFacts "level" = some 3 := by decide
  obtain ⟨hfields, _, hstatements⟩ := growth_has_expected_effects bossConfig.baseFacts options hgrowth
  refine ⟨options, hoptions, hgrowth, hlevel, ?_, ?_⟩
  · have hlost : FactSet.value? options "level" ≠ some 3 := by
      obtain rfl := Option.some.inj hoptions
      decide
    exact ((hfields "level" 3 hlevel).resolve_left hlost).1
  · exact (hstatements _ (by decide)).1 (by decide) (by decide)

end RollConditions
