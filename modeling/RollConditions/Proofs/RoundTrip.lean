/-
  Writing a statement and reading it back.

  The raw form of a statement reads back as the same statement exactly if all its literals are finite.
  Three recursions have to agree for that: the writer, the check for finite literals and the reader.
  What connects them is the list of the literals of a statement in the order of the document, each with
  the way to it in the raw form (`literals`).  Reading the raw form goes wrong at the first literal of
  that list that is not finite, and succeeds if there is none (`readAt_toRaw`), with the statement
  itself but for the signs of its zeros (`plainZeros`), which no comparison can see.
-/
import RollConditions.Predicate
import RollConditions.Proofs.ExactNumber
import RollConditions.Proofs.Shape

namespace RollConditions

/-! ## The literals of a statement -/

/-- A literal of a statement. -/
structure Literal where
  /-- The way to the literal in the raw form of the statement. -/
  steps : List Step
  /-- The number. -/
  value : Binary64

namespace Literal

/-- The literal seen from one level further up. -/
def under (step : Step) (literal : Literal) : Literal := { literal with steps := step :: literal.steps }

/-- The way to the first literal that is not a finite number. -/
def firstNotFinite? (literals : List Literal) : Option (List Step) :=
  (literals.find? (fun literal => !literal.value.isFinite)).map Literal.steps

/-- The first of two lists that has a literal of the kind decides. -/
theorem firstNotFinite?_append (literals others : List Literal) :
    firstNotFinite? (literals ++ others) = (firstNotFinite? literals).or (firstNotFinite? others) := by
  unfold firstNotFinite?
  rw [List.find?_append]
  cases literals.find? (fun literal => !literal.value.isFinite) <;> rfl

/-- Literals seen from further up are one step further away. -/
theorem firstNotFinite?_map_under (step : Step) (literals : List Literal) :
    firstNotFinite? (literals.map (under step)) = (firstNotFinite? literals).map (step :: ·) := by
  unfold firstNotFinite?
  rw [List.find?_map, Option.map_map, Option.map_map]
  rfl

end Literal

namespace Operand

/-- The literal of an operand, if it has one. -/
def literals : Operand → List Literal
  | field _ => []
  | literal value => [⟨[], value⟩]

/-- The operand without the sign of a zero. -/
def plainZeros : Operand → Operand
  | field path => field path
  | literal value => literal value.plainZero

end Operand

namespace Statement

mutual

/-- The literals of a statement in the order of the document: the items of a list by position, the
    condition before the conclusion, the left operand before the right one. -/
def literals : Statement → List Literal
  | atom _ => []
  | not inner => (literals inner).map (Literal.under (.key .negation))
  | group connective items => (itemLiterals 0 items).map (Literal.under (.key (.group connective)))
  | implication condition conclusion =>
    (literals condition).map (Literal.under (.key .condition))
      ++ (literals conclusion).map (Literal.under (.key .conclusion))
  | comparison relation left right =>
    (left.literals.map (Literal.under (.item 0)) ++ right.literals.map (Literal.under (.item 1))).map
      (Literal.under (.key (.comparison relation)))

/-- The literals of the items of a list, the first of them at the given position. -/
def itemLiterals (position : Nat) : List Statement → List Literal
  | [] => []
  | item :: rest =>
    (literals item).map (Literal.under (.item position)) ++ itemLiterals (position + 1) rest

end

mutual

/-- The statement without the signs of zeros. -/
def plainZeros : Statement → Statement
  | atom fact => atom fact
  | not inner => not (plainZeros inner)
  | group connective items => group connective (listPlainZeros items)
  | implication condition conclusion => implication (plainZeros condition) (plainZeros conclusion)
  | comparison relation left right => comparison relation left.plainZeros right.plainZeros

/-- The statements of a list without the signs of zeros. -/
def listPlainZeros : List Statement → List Statement
  | [] => []
  | item :: rest => plainZeros item :: listPlainZeros rest

end

/-! ## Reading the raw form

    A number that is not finite is written as a null, and no operand is a null.  So the raw form of every
    statement has a reading that is known beforehand, from the list of literals alone. -/

/-- What reading finds if the first literal that is not finite is the given one: a null in its place, or
    else the result. -/
def readUnless {α : Type} (place : String) (bad? : Option (List Step)) (result : α) :
    Except StatementError α :=
  match bad? with
  | none => .ok result
  | some steps => .error ⟨steps.foldl Step.extend place, .notOperand, .null⟩

section readUnless

variable {α β γ : Type} (place : String)

/-- A way that begins with a step is a way from the place after that step. -/
theorem readUnless_under (step : Step) (bad? : Option (List Step)) (result : α) :
    readUnless place (bad?.map (step :: ·)) result
      = readUnless (Step.extend place step) bad? result := by
  cases bad? <;> rfl

/-- What is made of the result afterwards does not matter to what stops the reading. -/
theorem map_readUnless (f : α → β) (bad? : Option (List Step)) (result : α) :
    (readUnless place bad? result).map f = readUnless place bad? (f result) := by
  cases bad? <;> rfl

/-- Two readings one after the other fail where the first of them does, or else the second. -/
theorem readUnless_or (f : α → β → γ) (bad? worse? : Option (List Step)) (a : α) (b : β) :
    (do
      let a ← readUnless place bad? a
      let b ← readUnless place worse? b
      return f a b)
      = readUnless place (bad?.or worse?) (f a b) := by
  cases bad? <;> cases worse? <;> rfl

end readUnless

/-- An operand is read back, unless it is a literal that is not finite. -/
theorem readAt_operand_toRaw (place : String) (operand : Operand) :
    Operand.readAt place operand.toRaw
      = readUnless place (Literal.firstNotFinite? operand.literals) operand.plainZeros := by
  cases operand with
  | field path => rfl
  | literal value =>
    cases hvalue : value.isFinite with
    | true =>
      -- the number comes back as the nearest one to what is written, which is itself
      have hnone : Literal.firstNotFinite? (Operand.literal value).literals = none := by
        simp [Literal.firstNotFinite?, Operand.literals, hvalue]
      rw [hnone]
      exact Operand.readAt_literalToRaw place hvalue
    | false =>
      -- the null is at fault where the operand stands, no step further in
      have hsome : Literal.firstNotFinite? (Operand.literal value).literals = some [] := by
        simp [Literal.firstNotFinite?, Operand.literals, hvalue]
      rw [hsome, Operand.toRaw, Operand.literalToRaw_of_not_finite hvalue]
      rfl

/-- The operands of a comparison are read back one after the other. -/
theorem readComparisonAt_toRaw (place : String) (relation : Comparison) (left right : Operand) :
    readComparisonAt place relation (.list [left.toRaw, right.toRaw])
      = readUnless place
          (Literal.firstNotFinite? (left.literals.map (Literal.under (.item 0))
            ++ right.literals.map (Literal.under (.item 1))))
          (comparison relation left.plainZeros right.plainZeros) := by
  rw [readComparisonAt, readAt_operand_toRaw, readAt_operand_toRaw, Literal.firstNotFinite?_append,
    Literal.firstNotFinite?_map_under, Literal.firstNotFinite?_map_under, ← readUnless_under,
    ← readUnless_under]
  exact readUnless_or place (comparison relation) _ _ _ _

/-- The items of a list are read back one by one, up to the first that is not. -/
theorem readItemsAt_toRaw (place : String) (position : Nat) (items : List Statement)
    (ih : ∀ item ∈ items, ∀ place, readAt place item.toRaw
      = readUnless place (Literal.firstNotFinite? item.literals) item.plainZeros) :
    readItemsAt place position (items.map toRaw)
      = readUnless place (Literal.firstNotFinite? (itemLiterals position items))
          (listPlainZeros items) := by
  induction items generalizing position with
  | nil => rfl
  | cons item rest ihrest =>
    obtain ⟨hitem, hrest⟩ := List.forall_mem_cons.mp ih
    rw [List.map_cons, readItemsAt, hitem, ihrest (position + 1) hrest, itemLiterals,
      Literal.firstNotFinite?_append, Literal.firstNotFinite?_map_under, ← readUnless_under]
    exact readUnless_or place List.cons _ _ _ _

/-- **The round trip.**  Reading the raw form of a statement fails at the first literal that is not
    finite, where the raw form has a null; without such a literal it gives back the statement, but for
    the signs of its zeros.  By induction on the statement, at every place. -/
theorem readAt_toRaw (statement : Statement) : ∀ place, readAt place statement.toRaw
    = readUnless place (Literal.firstNotFinite? statement.literals) statement.plainZeros := by
  induction statement with
  | atom fact => intro place; rfl
  | not inner ih =>
    intro place
    rw [toRaw, readAt_negation, ih, map_readUnless, literals, Literal.firstNotFinite?_map_under,
      readUnless_under, plainZeros]
  | group connective items ih =>
    intro place
    rw [toRaw, listToRaw_eq_map, readAt_group, readItemsAt_toRaw _ 0 items ih, map_readUnless,
      literals, Literal.firstNotFinite?_map_under, readUnless_under, plainZeros]
  | implication condition conclusion ihcondition ihconclusion =>
    intro place
    rw [toRaw, readAt_implication place (List.Perm.refl _), readHalvesAt, ihcondition, ihconclusion,
      literals, Literal.firstNotFinite?_append, Literal.firstNotFinite?_map_under,
      Literal.firstNotFinite?_map_under, ← readUnless_under, ← readUnless_under]
    exact readUnless_or place implication _ _ _ _
  | comparison relation left right =>
    intro place
    rw [toRaw, readAt_comparison, readComparisonAt_toRaw, literals, Literal.firstNotFinite?_map_under,
      readUnless_under, plainZeros]

/-! ## Finite literals

    The check goes through the statement and not through a list, so it has to be told that the list has
    exactly the literals that it looks at. -/

/-- Nothing that is not finite is found exactly if all is finite. -/
theorem firstNotFinite?_eq_none_iff {literals : List Literal} :
    Literal.firstNotFinite? literals = none ↔ ∀ literal ∈ literals, literal.value.isFinite = true := by
  unfold Literal.firstNotFinite?
  rw [Option.map_eq_none_iff, List.find?_eq_none]
  simp

/-- The check of an operand looks at its literal, if it has one. -/
theorem operand_isFinite_iff (operand : Operand) :
    operand.isFinite = true ↔ ∀ literal ∈ operand.literals, literal.value.isFinite = true := by
  cases operand <;> simp [Operand.isFinite, Operand.literals]

/-- The way to a literal does not matter to its being finite. -/
theorem forall_under_iff {step : Step} {literals : List Literal} :
    (∀ literal ∈ literals.map (Literal.under step), literal.value.isFinite = true) ↔
      ∀ literal ∈ literals, literal.value.isFinite = true :=
  List.forall_mem_map

/-- The check of a list goes through the literals of its items. -/
theorem itemLiterals_isFinite_iff (position : Nat) (items : List Statement)
    (ih : ∀ item ∈ items,
      (item.isFinite = true ↔ ∀ literal ∈ item.literals, literal.value.isFinite = true)) :
    (∀ item ∈ items, item.isFinite = true) ↔
      ∀ literal ∈ itemLiterals position items, literal.value.isFinite = true := by
  induction items generalizing position with
  | nil => simp [itemLiterals]
  | cons item rest ihrest =>
    obtain ⟨hitem, hrest⟩ := List.forall_mem_cons.mp ih
    rw [List.forall_mem_cons, hitem, ihrest (position + 1) hrest, itemLiterals, List.forall_mem_append,
      forall_under_iff]

/-- The check of a statement finds the literals that the list of them has. -/
theorem isFinite_iff (statement : Statement) : statement.isFinite = true ↔
    ∀ literal ∈ statement.literals, literal.value.isFinite = true := by
  induction statement with
  | atom fact => simp [isFinite, literals]
  | not inner ih => rw [isFinite, ih, literals, forall_under_iff]
  | group connective items ih =>
    rw [isFinite, listIsFinite_eq_all, List.all_eq_true, itemLiterals_isFinite_iff 0 items ih, literals,
      forall_under_iff]
  | implication condition conclusion ihcondition ihconclusion =>
    rw [isFinite, Bool.and_eq_true, ihcondition, ihconclusion, literals, List.forall_mem_append,
      forall_under_iff, forall_under_iff]
  | comparison relation left right =>
    rw [isFinite, Bool.and_eq_true, operand_isFinite_iff, operand_isFinite_iff, literals,
      forall_under_iff, List.forall_mem_append, forall_under_iff, forall_under_iff]

/-! ## The same statement

    A minus before a zero is lost when the number is written as a whole one.  That is the only thing lost,
    and `agrees` compares numbers as comparisons do, so it does not see it. -/

/-- A finite operand agrees with itself without the sign of a zero. -/
theorem agrees_operand_plainZeros {operand : Operand} (h : operand.isFinite = true) :
    operand.plainZeros.agrees operand = true := by
  cases operand with
  | field path => exact beq_self_eq_true path
  | literal value =>
    show value.plainZero.eq value = true
    rw [Binary64.eq_iff, Binary64.place?_plainZero]
    cases value with
    | finite negative m => exact ⟨_, rfl, rfl⟩
    | infinite negative => exact absurd h Bool.noConfusion
    | nan => exact absurd h Bool.noConfusion

/-- A list agrees with itself without the signs of zeros if its items do. -/
theorem listAgrees_plainZeros (items : List Statement)
    (ih : ∀ item ∈ items, item.isFinite = true → item.plainZeros.agrees item = true)
    (h : ∀ item ∈ items, item.isFinite = true) : listAgrees (listPlainZeros items) items = true := by
  induction items with
  | nil => rfl
  | cons item rest ihrest =>
    obtain ⟨ihitem, ihtail⟩ := List.forall_mem_cons.mp ih
    obtain ⟨hitem, htail⟩ := List.forall_mem_cons.mp h
    rw [listPlainZeros, listAgrees, ihitem hitem, ihrest ihtail htail]
    rfl

/-- A statement with finite literals agrees with itself without the signs of zeros. -/
theorem agrees_plainZeros (statement : Statement) :
    statement.isFinite = true → statement.plainZeros.agrees statement = true := by
  induction statement with
  | atom fact => intro _; exact beq_self_eq_true fact
  | not inner ih =>
    intro h
    exact ih h
  | group connective items ih =>
    intro h
    rw [isFinite, listIsFinite_eq_all, List.all_eq_true] at h
    rw [plainZeros, agrees, listAgrees_plainZeros items ih h, beq_self_eq_true]
    rfl
  | implication condition conclusion ihcondition ihconclusion =>
    intro h
    rw [isFinite, Bool.and_eq_true] at h
    rw [plainZeros, agrees, ihcondition h.1, ihconclusion h.2]
    rfl
  | comparison relation left right =>
    intro h
    rw [isFinite, Bool.and_eq_true] at h
    rw [plainZeros, agrees, agrees_operand_plainZeros h.1, agrees_operand_plainZeros h.2,
      beq_self_eq_true]
    rfl

/-! ## The same truth -/

section holds

variable {σ : Type} [FactSet σ] (facts : σ)

/-- Agreeing operands stand for numbers at the same place, or both for none. -/
theorem place?_eq_of_agrees {a b : Operand} (h : a.agrees b = true) :
    (a.value? facts).map Binary64.place? = (b.value? facts).map Binary64.place? := by
  match a, b with
  | .field path, .field other =>
    obtain rfl : path = other := beq_iff_eq.mp h
    rfl
  | .literal value, .literal other =>
    obtain ⟨x, hvalue, hother⟩ := Binary64.eq_iff.mp h
    show some value.place? = some other.place?
    rw [hvalue, hother]
  | .field _, .literal _ => exact absurd h Bool.noConfusion
  | .literal _, .field _ => exact absurd h Bool.noConfusion

/-- A relation between numbers is one between their places. -/
theorem relation_holds_congr (relation : Comparison) {w x y z : Binary64} (hleft : w.place? = y.place?)
    (hright : x.place? = z.place?) : relation.holds w x = relation.holds y z := by
  cases relation <;>
    simp only [Comparison.holds, Binary64.lt, Binary64.le, Binary64.compareBy, hleft, hright]

/-- A comparison sees nothing of its operands but the places that they stand at. -/
theorem holdsOf_congr (relation : Comparison) {a b c d : Operand}
    (hleft : (a.value? facts).map Binary64.place? = (c.value? facts).map Binary64.place?)
    (hright : (b.value? facts).map Binary64.place? = (d.value? facts).map Binary64.place?) :
    relation.holdsOf facts a b = relation.holdsOf facts c d := by
  unfold Comparison.holdsOf
  -- an operand without a value on one side has none on the other, and the comparison is false of both
  cases hc : c.value? facts with
  | none =>
    have ha : a.value? facts = none := by
      rwa [hc, Option.map_none, Option.map_eq_none_iff] at hleft
    rw [ha]
  | some y =>
    rw [hc, Option.map_some, Option.map_eq_some_iff] at hleft
    obtain ⟨x, ha, hxy⟩ := hleft
    cases hd : d.value? facts with
    | none =>
      have hb : b.value? facts = none := by
        rwa [hd, Option.map_none, Option.map_eq_none_iff] at hright
      rw [ha, hb]
    | some z =>
      rw [hd, Option.map_some, Option.map_eq_some_iff] at hright
      obtain ⟨w, hb, hwz⟩ := hright
      rw [ha, hb]
      exact relation_holds_congr relation hxy hwz

/-- Lists that agree have the same truths, item by item. -/
theorem truths_eq_of_listAgrees {items others : List Statement}
    (ih : ∀ item ∈ items, ∀ other, item.agrees other = true → item.holds facts = other.holds facts)
    (h : listAgrees items others = true) : truths facts items = truths facts others := by
  induction items generalizing others with
  | nil =>
    cases others with
    | nil => rfl
    | cons _ _ => exact absurd h Bool.noConfusion
  | cons item rest ihrest =>
    cases others with
    | nil => exact absurd h Bool.noConfusion
    | cons other tail =>
      obtain ⟨ihitem, ihtail⟩ := List.forall_mem_cons.mp ih
      rw [listAgrees, Bool.and_eq_true] at h
      rw [truths, truths, ihitem other h.1, ihrest ihtail h.2]

/-- **Statements that agree hold of the same facts.** -/
theorem holds_eq_of_agrees (statement : Statement) :
    ∀ other, statement.agrees other = true → statement.holds facts = other.holds facts := by
  -- statements of different kinds do not agree, so each case has one other statement to look at
  induction statement with
  | atom fact =>
    intro other h
    cases other with
    | atom _ => rw [beq_iff_eq.mp h]
    | _ => exact absurd h Bool.noConfusion
  | not inner ih =>
    intro other h
    cases other with
    | not _ => rw [holds, holds, ih _ h]
    | _ => exact absurd h Bool.noConfusion
  | group connective items ih =>
    intro other h
    cases other with
    | group _ _ =>
      rw [agrees, Bool.and_eq_true, beq_iff_eq] at h
      rw [holds, holds, h.1, truths_eq_of_listAgrees facts ih h.2]
    | _ => exact absurd h Bool.noConfusion
  | implication condition conclusion ihcondition ihconclusion =>
    intro other h
    cases other with
    | implication _ _ =>
      rw [agrees, Bool.and_eq_true] at h
      rw [holds, holds, ihcondition _ h.1, ihconclusion _ h.2]
    | _ => exact absurd h Bool.noConfusion
  | comparison relation left right =>
    intro other h
    cases other with
    | comparison _ _ _ =>
      rw [agrees, Bool.and_eq_true, Bool.and_eq_true, beq_iff_eq] at h
      rw [holds, holds, h.1.1]
      exact holdsOf_congr facts _ (place?_eq_of_agrees facts h.1.2) (place?_eq_of_agrees facts h.2)
    | _ => exact absurd h Bool.noConfusion

end holds

end Statement

namespace Predicate

/-- Every literal of every statement is a finite number. -/
def IsFinite (predicate : Predicate) : Prop :=
  ∀ statement ∈ predicate.statements, statement.isFinite = true

/-- The literals of a predicate in the order of the document. -/
def literals (predicate : Predicate) : List Literal := Statement.itemLiterals 0 predicate.statements

/-- Predicates that agree hold of the same facts. -/
theorem holds_eq_of_agrees {σ : Type} [FactSet σ] (facts : σ) {predicate other : Predicate}
    (h : predicate.agrees other = true) : predicate.holds facts = other.holds facts := by
  have htruths := Statement.truths_eq_of_listAgrees facts
    (fun statement _ => Statement.holds_eq_of_agrees facts statement) h
  rw [Statement.truths_eq_map, Statement.truths_eq_map] at htruths
  calc predicate.holds facts = (predicate.statements.map (Statement.holds facts)).all id := by
        rw [List.all_map]; rfl
    _ = (other.statements.map (Statement.holds facts)).all id := by rw [htruths]
    _ = other.holds facts := by rw [List.all_map]; rfl

end Predicate

/-! ## The round trip as a whole -/

/-- What a reading comes to that fails at the first literal that is not finite. -/
theorem readUnless_cases {α : Type} {reading : Except StatementError α} {literals : List Literal}
    {result : α} {finite : Prop} (isSame : α → Prop)
    (hreading : reading = Statement.readUnless "" (Literal.firstNotFinite? literals) result)
    (hfinite : finite ↔ ∀ literal ∈ literals, literal.value.isFinite = true)
    (hsame : finite → isSame result) :
    ((∃ again, reading = .ok again ∧ isSame again) ↔ finite) ∧
    (¬ finite → ∃ steps error, Literal.firstNotFinite? literals = some steps ∧
      reading = .error error ∧ error.path = Step.text steps ∧ error.value = .null ∧
      error.reason = "operand must be a number or a field path") := by
  rw [← Statement.firstNotFinite?_eq_none_iff] at hfinite
  cases hbad : Literal.firstNotFinite? literals with
  | none =>
    rw [hbad] at hreading
    have h : finite := hfinite.mpr hbad
    exact ⟨⟨fun _ => h, fun _ => ⟨result, hreading, hsame h⟩⟩, fun hnot => absurd h hnot⟩
  | some steps =>
    rw [hbad] at hreading
    have h : ¬ finite := fun hfin => by
      rw [hfinite.mp hfin] at hbad
      cases hbad
    refine ⟨⟨?_, fun hfin => absurd hfin h⟩, fun _ => ⟨steps, _, rfl, hreading, rfl, rfl, rfl⟩⟩
    rintro ⟨again, hok, _⟩
    rw [hreading] at hok
    cases hok

/-- What is written under a condition is written exactly if the condition holds. -/
theorem written_iff {finite : Prop} [Decidable finite] {form raw : Json} {refusal : WriteError} :
    (if finite then Except.ok form else .error refusal) = .ok raw ↔ finite ∧ raw = form := by
  by_cases h : finite
  · rw [if_pos h]
    exact ⟨fun heq => ⟨h, (Except.ok.inj heq).symm⟩, fun heq => congrArg Except.ok heq.2.symm⟩
  · rw [if_neg h]
    exact ⟨fun heq => absurd heq (by simp), fun heq => absurd heq.1 h⟩

/-- **Writing and reading back.**  The raw form of a predicate reads back as a predicate that agrees with
    it, and holds of the same facts in every kind of collection, exactly if every statement has finite
    literals only.  Otherwise reading fails at the first literal of the document that is not finite,
    where it finds a null and asks for an operand.  Exactly the finite predicates can be written, as
    their raw form.  The same is true of a statement on its own. -/
theorem read_toRaw_iff_isFinite :
    (∀ predicate : Predicate,
      ((∃ again, Predicate.read predicate.toRaw = .ok again ∧ again.agrees predicate = true ∧
          ∀ (σ : Type) [FactSet σ] (facts : σ), again.holds facts = predicate.holds facts) ↔
        predicate.IsFinite) ∧
      (¬ predicate.IsFinite → ∃ steps error,
        Literal.firstNotFinite? predicate.literals = some steps ∧
        Predicate.read predicate.toRaw = .error error ∧ error.path = Step.text steps ∧
        error.value = .null ∧ error.reason = "operand must be a number or a field path") ∧
      (∀ raw, predicate.written? = .ok raw ↔ predicate.IsFinite ∧ raw = predicate.toRaw)) ∧
    (∀ statement : Statement,
      ((∃ again, Statement.read statement.toRaw = .ok again ∧ again.agrees statement = true ∧
          ∀ (σ : Type) [FactSet σ] (facts : σ), again.holds facts = statement.holds facts) ↔
        statement.isFinite = true) ∧
      (¬ statement.isFinite = true → ∃ steps error,
        Literal.firstNotFinite? statement.literals = some steps ∧
        Statement.read statement.toRaw = .error error ∧ error.path = Step.text steps ∧
        error.value = .null ∧ error.reason = "operand must be a number or a field path") ∧
      (∀ raw, statement.written? = .ok raw ↔ statement.isFinite = true ∧ raw = statement.toRaw)) := by
  constructor
  · -- a predicate is written and read as the items of a list are
    intro predicate
    have hreading : Predicate.read predicate.toRaw
        = Statement.readUnless "" (Literal.firstNotFinite? predicate.literals)
            (Predicate.mk (Statement.listPlainZeros predicate.statements)) := by
      show (Statement.readItemsAt "" 0 (Statement.listToRaw predicate.statements)).map Predicate.mk = _
      rw [Statement.listToRaw_eq_map, Statement.readItemsAt_toRaw "" 0 _
        (fun statement _ => Statement.readAt_toRaw statement), Statement.map_readUnless]
      rfl
    have hagrees : predicate.IsFinite →
        (Predicate.mk (Statement.listPlainZeros predicate.statements)).agrees predicate = true :=
      fun h => Statement.listAgrees_plainZeros _
        (fun statement _ => Statement.agrees_plainZeros statement) h
    have hfinite : predicate.IsFinite ↔
        ∀ literal ∈ predicate.literals, literal.value.isFinite = true :=
      Statement.itemLiterals_isFinite_iff 0 _ (fun statement _ => Statement.isFinite_iff statement)
    obtain ⟨hok, herror⟩ := readUnless_cases
      (fun again => again.agrees predicate = true ∧
        ∀ (σ : Type) [FactSet σ] (facts : σ), again.holds facts = predicate.holds facts)
      hreading hfinite
      (fun h => ⟨hagrees h, fun _ _ facts => Predicate.holds_eq_of_agrees facts (hagrees h)⟩)
    refine ⟨hok, herror, fun raw => written_iff.trans (and_congr_left' ?_)⟩
    rw [Statement.listIsFinite_eq_all, List.all_eq_true]
    rfl
  · intro statement
    have hagrees : statement.isFinite = true → statement.plainZeros.agrees statement = true :=
      Statement.agrees_plainZeros statement
    obtain ⟨hok, herror⟩ := readUnless_cases
      (fun again => again.agrees statement = true ∧
        ∀ (σ : Type) [FactSet σ] (facts : σ), again.holds facts = statement.holds facts)
      (Statement.readAt_toRaw statement "") (Statement.isFinite_iff statement)
      (fun h => ⟨hagrees h, fun _ _ facts => Statement.holds_eq_of_agrees facts _ _ (hagrees h)⟩)
    exact ⟨hok, herror, fun raw => written_iff⟩

end RollConditions
