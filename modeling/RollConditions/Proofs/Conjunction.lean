/-
  A list of raw statements is their conjunction.

  A raw predicate may be a list, and a list means that all of its items hold; the key `and` says the same
  inside a statement.  The two are read, tested and shown by different functions.  One equation ties them
  together (`read_conjunction`): what is read under the key `and` is what is read from the list, made into a
  single statement, and errors have `[0].and` in front of their places.  It rests on what such a prefix does:
  written in front of the errors of the items, it is the place that the items are read at
  (`readItemsAt_mapError_within`).
-/
import RollConditions.Proofs.FirstMisfit
import RollConditions.Proofs.Grammar
import RollConditions.Proofs.Relocation

namespace RollConditions

/-! ## Items with a prefix in front of their places -/

/-- Of two readings one after the other, the one that fails has its error changed. -/
theorem mapError_bind_bind {ε ε' α β γ : Type} (first : Except ε α) (second : Except ε β)
    (f : α → β → γ) (change : ε → ε') :
    (do
      let a ← first
      let b ← second
      return f a b).mapError change
      = (do
        let a ← first.mapError change
        let b ← second.mapError change
        return f a b) := by
  cases first <;> cases second <;> rfl

/-- A prefix that is written in front of the errors of some items might as well have been part of the place
    of the list. -/
theorem Statement.readItemsAt_mapError_within (before place : String) (position : Nat)
    (raws : List Json) :
    (readItemsAt place position raws).mapError (StatementError.within before)
      = readItemsAt (before ++ place) position raws := by
  induction raws generalizing position with
  | nil => rfl
  | cons raw rest ih =>
    have hplace : before ++ Step.extend place (.item position)
        = Step.extend (before ++ place) (.item position) := by
      simp only [Step.extend, String.append_assoc]
    rw [readItemsAt, readItemsAt, mapError_bind_bind, ih,
      readAt_mapError_within before (Step.extend_ne_empty place _), hplace]

namespace Predicate

/-- One statement that stands for all statements of a predicate. -/
def conjunction (predicate : Predicate) : Predicate := ⟨[.group .all predicate.statements]⟩

/-! ## Reading -/

theorem ofRawStatements_single (raw : Json) :
    ofRawStatements [raw]
      = (Statement.readAt (Step.extend "" (.item 0)) raw).map (fun statement => ⟨[statement]⟩) := by
  rw [ofRawStatements, Statement.readItemsAt, Statement.readItemsAt]
  cases Statement.readAt (Step.extend "" (.item 0)) raw <;> rfl

/-- **The key `and` reads what a list reads**, as a single statement and one place further in. -/
theorem read_conjunction (raws : List Json) :
    read (.object [("and", .list raws)])
      = ((read (.list raws)).map conjunction).mapError (StatementError.within "[0].and") := by
  have hitems : Statement.readAt (Step.extend "" (.item 0)) (.object [("and", .list raws)])
      = ((Statement.readItemsAt "" 0 raws).mapError (StatementError.within "[0].and")).map
          (.group .all) := by
    rw [Statement.readItemsAt_mapError_within]
    exact Statement.readAt_group _ .all raws
  calc read (.object [("and", .list raws)])
    _ = ofRawStatements [.object [("and", .list raws)]] := read_of_not_list (fun _ h => by cases h)
    _ = (((Statement.readItemsAt "" 0 raws).mapError (StatementError.within "[0].and")).map
          (.group .all)).map (fun statement => ⟨[statement]⟩) := by
        rw [ofRawStatements_single, hitems]
    _ = ((ofRawStatements raws).map conjunction).mapError (StatementError.within "[0].and") := by
        rw [ofRawStatements]
        cases Statement.readItemsAt "" 0 raws <;> rfl

theorem read_conjunction_eq_ok_iff {raws : List Json} {predicate : Predicate} :
    read (.object [("and", .list raws)]) = .ok predicate ↔
      ∃ listed, read (.list raws) = .ok listed ∧ listed.conjunction = predicate := by
  rw [read_conjunction, mapError_eq_ok_iff, map_eq_ok_iff]

theorem read_conjunction_eq_error_iff {raws : List Json} {error : StatementError} :
    read (.object [("and", .list raws)]) = .error error ↔
      ∃ listed, read (.list raws) = .error listed ∧ listed.within "[0].and" = error := by
  simp only [read_conjunction, mapError_eq_error_iff, map_eq_error_iff]

/-- A predicate that was read from a list has a statement for each item. -/
theorem length_of_read_list {raws : List Json} {predicate : Predicate}
    (h : read (.list raws) = .ok predicate) : predicate.statements.length = raws.length :=
  (ofRawStatements_eq_ok_iff.mp h).length_eq.symm

/-- The place of an error in a list begins with the position of an item, of one that cannot be read. -/
theorem exists_path_of_read_list {raws : List Json} {error : StatementError}
    (h : read (.list raws) = .error error) :
    ∃ (index : Nat) (raw : Json) (inside : String), raws[index]? = some raw ∧
      (∃ alone, Statement.read raw = .error alone) ∧
      error.path = "[" ++ toString index ++ "]" ++ inside := by
  obtain ⟨before, raw, after, first, rest, rfl, -, hraw, rfl⟩ := ofRawStatements_eq_error_iff.mp h
  obtain ⟨inside, hpath⟩ := first.exists_path_errorAt (Step.extend_ne_empty "" (.item before.length))
  rw [Step.extend, String.empty_append] at hpath
  have hindex : (before ++ raw :: after)[before.length]? = some raw := by simp
  exact ⟨before.length, raw, inside, hindex,
    ⟨_, Statement.read_eq_error_iff_head.mpr ⟨first, rest, hraw, rfl⟩⟩, hpath⟩

/-! ## Testing and showing -/

theorem holds_conjunction {σ : Type} [FactSet σ] (facts : σ) (predicate : Predicate) :
    predicate.conjunction.holds facts = predicate.holds facts := by
  have hconjunction : (Statement.group .all predicate.statements).holds facts
      = predicate.statements.all (Statement.holds facts) := by
    rw [Statement.holds, Statement.truths_eq_map, Connective.holds, List.all_map]
    rfl
  rw [holds, holds, conjunction, List.all_cons, List.all_nil, Bool.and_true, hconjunction]

theorem text_conjunction (predicate : Predicate) :
    predicate.conjunction.text
      = Statement.listed Connective.all.key (Statement.texts predicate.statements) := by
  show (Statement.group .all predicate.statements).text = _
  rw [Statement.text]

/-- A word in front of a text and brackets around it make another text. -/
theorem listed_single_ne (word item : String) : Statement.listed word [item] ≠ item := by
  intro heq
  have hlength := congrArg String.length heq
  simp only [Statement.listed, String.intercalate_singleton, String.length_append] at hlength
  have hopen : "(".length = 1 := rfl
  omega

/-- A conjunction is shown as the list is, unless the list has one item, which is shown for itself. -/
theorem text_conjunction_eq_iff {predicate : Predicate} :
    predicate.text = predicate.conjunction.text ↔ predicate.statements.length ≠ 1 := by
  rw [text_conjunction]
  obtain ⟨statements⟩ := predicate
  match statements with
  | [] => exact ⟨fun _ => by simp, fun _ => rfl⟩
  | [statement] =>
    refine ⟨fun heq => ?_, fun hlength => absurd rfl hlength⟩
    exact absurd heq.symm (listed_single_ne Connective.all.key statement.text)
  | _ :: _ :: _ => exact ⟨fun _ => by simp, fun _ => rfl⟩

/-- A single item shows the difference. -/
example : (Predicate.mk [.atom "crit"]).text = "crit"
    ∧ (Predicate.mk [.atom "crit"]).conjunction.text = "and(crit)" := by decide

end Predicate

/-- **A list of raw statements is their conjunction.**

    A list is read as a predicate exactly if it is read under the key `and`.  The two predicates hold of
    the same facts, in every kind of collection, and are shown alike unless the list has exactly one item.
    If they are refused, then for the same reason and with the same value, which stands in the same item
    and there at the same place: one place begins with the position of the item, the other one with
    `[0].and` and that position.  A value that is no list stands for the list of it alone, also where it
    is refused. -/
theorem list_is_read_as_conjunction :
    (∀ raws,
      (∃ predicate, Predicate.read (.list raws) = .ok predicate) ↔
        ∃ predicate, Predicate.read (.object [("and", .list raws)]) = .ok predicate) ∧
    (∀ raws listed predicate, Predicate.read (.list raws) = .ok listed →
      Predicate.read (.object [("and", .list raws)]) = .ok predicate →
      (∀ (σ : Type) [FactSet σ] (facts : σ), listed.holds facts = predicate.holds facts) ∧
      (listed.text = predicate.text ↔ raws.length ≠ 1)) ∧
    (∀ raws listed error, Predicate.read (.list raws) = .error listed →
      Predicate.read (.object [("and", .list raws)]) = .error error →
      error.reason = listed.reason ∧ error.value = listed.value ∧
      ∃ (index : Nat) (raw : Json) (inside : String), raws[index]? = some raw ∧
        (∃ alone, Statement.read raw = .error alone) ∧
        listed.path = "[" ++ toString index ++ "]" ++ inside ∧
        error.path = "[0].and[" ++ toString index ++ "]" ++ inside) ∧
    (∀ raw, (∀ items, raw ≠ .list items) → Predicate.read raw = Predicate.read (.list [raw])) := by
  refine ⟨?_, ?_, ?_, fun _ => Predicate.read_of_not_list⟩
  · intro raws
    simp only [Predicate.read_conjunction_eq_ok_iff]
    constructor
    · rintro ⟨listed, hlisted⟩
      exact ⟨listed.conjunction, listed, hlisted, rfl⟩
    · rintro ⟨_, listed, hlisted, -⟩
      exact ⟨listed, hlisted⟩
  · intro raws listed predicate hlisted hpredicate
    obtain ⟨same, hsame, rfl⟩ := Predicate.read_conjunction_eq_ok_iff.mp hpredicate
    obtain rfl := Except.ok.inj (hlisted.symm.trans hsame)
    refine ⟨fun σ _ facts => (Predicate.holds_conjunction facts listed).symm, ?_⟩
    rw [Predicate.text_conjunction_eq_iff, Predicate.length_of_read_list hlisted]
  · intro raws listed error hlisted herror
    obtain ⟨same, hsame, rfl⟩ := Predicate.read_conjunction_eq_error_iff.mp herror
    obtain rfl := Except.error.inj (hlisted.symm.trans hsame)
    obtain ⟨index, raw, inside, hraw, halone, hpath⟩ := Predicate.exists_path_of_read_list hlisted
    refine ⟨rfl, rfl, index, raw, inside, hraw, halone, hpath, ?_⟩
    show "[0].and" ++ listed.path = _
    rw [hpath, ← String.append_assoc, ← String.append_assoc, ← String.append_assoc]
    rfl

/-- A fact, and a list where a statement is due, two levels down. -/
def nestedList : List Json := [.text "crit", .object [("or", .list [.text "hit", .list []])]]

/-- The list is refused where it stands, under the key `and` as well. -/
theorem nested_list_is_refused_under_and :
    Predicate.read (.list nestedList) = .error ⟨"[1].or[1]", .strayList, .list []⟩ ∧
    Predicate.read (.object [("and", .list nestedList)])
      = .error ⟨"[0].and[1].or[1]", .strayList, .list []⟩ ∧
    ∃ (index : Nat) (raw : Json) (inside : String), nestedList[index]? = some raw ∧
      (∃ alone, Statement.read raw = .error alone) ∧
      "[1].or[1]" = "[" ++ toString index ++ "]" ++ inside ∧
      "[0].and[1].or[1]" = "[0].and[" ++ toString index ++ "]" ++ inside := by
  have hlisted : Predicate.read (.list nestedList) = .error ⟨"[1].or[1]", .strayList, .list []⟩ := rfl
  have hconjunction : Predicate.read (.object [("and", .list nestedList)])
      = .error ⟨"[0].and[1].or[1]", .strayList, .list []⟩ := rfl
  exact ⟨hlisted, hconjunction,
    (list_is_read_as_conjunction.2.2.1 nestedList _ _ hlisted hconjunction).2.2⟩

end RollConditions
