/-
  The meaning of a raw document.

  `Raw.truth` says directly on the JSON value when a raw statement is true of some facts: there is no
  statement in between, what the readers find out by scanning with an early exit is counted here, and the
  keys stand for themselves.  A predicate that was read from a document holds exactly if the raw
  statements of the document are true, by induction over the shapes of raw statements.

    * ONE OF A LIST.  The evaluator stops at the second item that holds; it finds exactly one if the
      number of positions that hold is one (`exactlyOne_eq`).
    * THE VALUE OF A FIELD.  The evaluator stops at the second reading of a path; it finds a value if the
      list of all readings, each fact taken once, has one entry (`onlyReading?_eq_some_iff_readings`).
-/
import Mathlib.Data.List.Dedup
import RollConditions.Proofs.Grammar
import RollConditions.Proofs.Lookup

namespace RollConditions

/-! ## Truth on the document itself -/

namespace Raw

/-- The numbers that some facts give to a field path, one for each fact that is a reading of it, however
    often the fact is listed. -/
def readings (facts : List String) (path : String) : List Int :=
  facts.dedup.filterMap (Fact.reading? path)

/-- The value of a raw operand among some facts: a number has its own, a text the one that a single
    reading gives it. -/
def value? (facts : List String) : Json → Option Binary64
  | .number value => some value.toBinary64
  | .text path =>
    match readings facts path with
    | [value] => some (.ofInt value)
    | _ => none
  | _ => none

/-- Whether two raw operands both have values, and the values stand in a relation. -/
def related (facts : List String) (relation : Binary64 → Binary64 → Bool) (left right : Json) : Bool :=
  match value? facts left, value? facts right with
  | some a, some b => relation a b
  | _, _ => false

mutual

/-- Whether a raw statement is true of some facts.  What is no raw statement is true of none. -/
def truth (facts : List String) : Json → Bool
  | .text fact => facts.contains fact
  | .object [("not", inner)] => !truth facts inner
  | .object [("and", .list items)] => (truths facts items).all id
  | .object [("or", .list items)] => (truths facts items).any id
  | .object [("nor", .list items)] => !(truths facts items).any id
  | .object [("xor", .list items)] => (truths facts items).count true == 1
  | .object [("if", condition), ("then", conclusion)] =>
    !truth facts condition || truth facts conclusion
  | .object [("then", conclusion), ("if", condition)] =>
    !truth facts condition || truth facts conclusion
  | .object [("gt", .list [left, right])] => related facts (fun a b => b.lt a) left right
  | .object [("gte", .list [left, right])] => related facts (fun a b => b.le a) left right
  | .object [("lt", .list [left, right])] => related facts (fun a b => a.lt b) left right
  | .object [("lte", .list [left, right])] => related facts (fun a b => a.le b) left right
  | _ => false

/-- Which raw statements of a list are true of some facts. -/
def truths (facts : List String) : List Json → List Bool
  | [] => []
  | item :: rest => truth facts item :: truths facts rest

end

end Raw

/-! ## Scans and counts -/

/-- The search for exactly one truth counts them, together with the one found before. -/
theorem Connective.exactlyOne_eq (found : Bool) (truths : List Bool) :
    Connective.exactlyOne found truths = (found.toNat + truths.count true == 1) := by
  induction truths generalizing found with
  | nil => cases found <;> rfl
  | cons truth rest ih =>
    cases truth with
    | false => rw [Connective.exactlyOne, ih, List.count_cons_of_ne (by decide)]
    | true =>
      rw [Connective.exactlyOne, List.count_cons_self]
      cases found with
      | false => rw [if_neg (by decide), ih, Bool.toNat_true, Bool.toNat_false, Nat.zero_add, Nat.add_comm]
      | true =>
        rw [if_pos rfl, Bool.toNat_true, eq_comm, beq_eq_false_iff_ne]
        omega

/-- A value is the only reading of a path if the list of all readings has no other entry. -/
theorem Fact.onlyReading?_eq_some_iff_readings {path : String} {facts : List String} {value : Int} :
    Fact.onlyReading? path facts = some value ↔ Raw.readings facts path = [value] := by
  rw [Fact.onlyReading?_eq_some_iff, Raw.readings, List.filterMap_eq_cons_iff]
  simp only [List.filterMap_eq_nil_iff]
  constructor
  · rintro ⟨fact, hmem, hfact, honly⟩
    obtain ⟨before, after, hsplit⟩ := List.append_of_mem (List.mem_dedup.mpr hmem)
    -- the fact stands once in the list, so no entry beside it is a reading
    have hnodup := List.nodup_dedup facts
    rw [hsplit, List.nodup_middle, List.nodup_cons, List.mem_append, not_or] at hnodup
    have hnone : ∀ other ∈ before ++ after, Fact.reading? path other = none := by
      intro other hother
      have hin : other ∈ facts := by
        rw [← List.mem_dedup, hsplit]
        rcases List.mem_append.mp hother with h | h <;> simp [h]
      by_contra hreading
      obtain rfl := honly other hin (Option.isSome_iff_ne_none.mpr hreading)
      exact (List.mem_append.mp hother).elim hnodup.1.1 hnodup.1.2
    exact ⟨before, fact, after, hsplit, fun other h => hnone other (List.mem_append_left _ h), hfact,
      fun other h => hnone other (List.mem_append_right _ h)⟩
  · rintro ⟨before, fact, after, hsplit, hbefore, hfact, hafter⟩
    have hmem : ∀ other, other ∈ facts ↔ other ∈ before ∨ other = fact ∨ other ∈ after := by
      intro other
      rw [← List.mem_dedup, hsplit, List.mem_append, List.mem_cons]
    refine ⟨fact, (hmem fact).mpr (Or.inr (Or.inl rfl)), hfact, fun other hother hreading => ?_⟩
    rcases (hmem other).mp hother with h | h | h
    · simp [hbefore other h] at hreading
    · exact h
    · simp [hafter other h] at hreading

/-! ## The meaning of what is read -/

namespace Raw

/-- A raw operand stands for the number that its operand stands for. -/
theorem value?_eq_of_rawOperand {raw : Json} {operand : Operand} (h : RawOperand raw operand)
    (facts : List String) : value? facts raw = operand.value? facts := by
  cases h with
  | literal value => rfl
  | field path =>
    show (match readings facts path with | [value] => some (.ofInt value) | _ => none)
      = (Fact.onlyReading? path facts).map Binary64.ofInt
    cases honly : Fact.onlyReading? path facts with
    | some value =>
      rw [Fact.onlyReading?_eq_some_iff_readings.mp honly]
      rfl
    | none =>
      split
      · rename_i value hreadings
        rw [Fact.onlyReading?_eq_some_iff_readings.mpr hreadings] at honly
        cases honly
      · rfl

/-- Raw operands are related as their operands are. -/
theorem related_eq_of_rawOperand {a b : Json} {left right : Operand} (hleft : RawOperand a left)
    (hright : RawOperand b right) (relation : Comparison) (facts : List String) :
    related facts relation.holds a b = relation.holdsOf facts left right := by
  rw [related, value?_eq_of_rawOperand hleft, value?_eq_of_rawOperand hright]
  rfl

/-- A relation's key asks for the relation. -/
theorem truth_comparison (facts : List String) (relation : Comparison) (a b : Json) :
    truth facts (.object [((Keyword.comparison relation).text, .list [a, b])])
      = related facts relation.holds a b := by
  cases relation <;> rfl

/-- A connective's key asks for as many truths as the connective. -/
theorem truth_group (facts : List String) (connective : Connective) (items : List Json) :
    truth facts (.object [((Keyword.group connective).text, .list items)])
      = connective.holds (truths facts items) := by
  cases connective with
  | one =>
    show ((truths facts items).count true == 1) = Connective.exactlyOne false (truths facts items)
    rw [Connective.exactlyOne_eq, Bool.toNat_false, Nat.zero_add]
  | _ => rfl

/-- A raw implication is true in the same cases, whichever of its halves comes first. -/
theorem truth_implication (facts : List String) {fields : List (String × Json)} {a b : Json}
    (halves : fields.Perm [(Keyword.condition.text, a), (Keyword.conclusion.text, b)]) :
    truth facts (.object fields) = (!truth facts a || truth facts b) := by
  rcases List.perm_pair.mp halves with rfl | rfl <;> rfl

/-- The truths of a raw list are those of its statements, item by item. -/
theorem truths_eq_of_forall₂ {facts : List String} {raws : List Json} {items : List Statement}
    (ih : ∀ raw ∈ raws, ∀ statement, RawForm raw statement → truth facts raw = statement.holds facts)
    (h : List.Forall₂ RawForm raws items) : truths facts raws = items.map (Statement.holds facts) := by
  induction h with
  | nil => rfl
  | cons hraw _ ihrest =>
    obtain ⟨hhead, htail⟩ := List.forall_mem_cons.mp ih
    rw [truths, List.map_cons, hhead _ hraw, ihrest htail]

/-- **A raw form is true when its statement holds.**  By induction over the shapes of raw statements. -/
theorem truth_eq_holds (facts : List String) (raw : Json) : ∀ statement,
    RawForm raw statement → truth facts raw = statement.holds facts := by
  induction raw using Statement.raw_induction with
  | null | bool _ | number _ | list _ =>
    intro statement h
    cases h
  | text fact =>
    intro statement h
    cases h
    rfl
  | negation value ih =>
    intro statement h
    obtain ⟨inner, hinner, rfl⟩ := Statement.rawForm_single_iff.mp h
    rw [Statement.holds, ← ih inner hinner]
    rfl
  | group connective items ih =>
    intro statement h
    obtain ⟨raws, statements, hraws, hforms, rfl⟩ := Statement.rawForm_single_iff.mp h
    obtain rfl := Json.list.inj hraws
    rw [truth_group, truths_eq_of_forall₂ ih hforms, Statement.holds, Statement.truths_eq_map]
  | groupOfOther connective value notList =>
    intro statement h
    obtain ⟨raws, _, heq, _⟩ := Statement.rawForm_single_iff.mp h
    exact absurd heq (notList raws)
  | comparison relation value =>
    intro statement h
    obtain ⟨a, b, left, right, rfl, hleft, hright, rfl⟩ := Statement.rawForm_single_iff.mp h
    rw [truth_comparison, related_eq_of_rawOperand hleft hright, Statement.holds]
  | implication fields a b halves iha ihb =>
    intro statement h
    obtain ⟨condition, conclusion, hcondition, hconclusion, rfl⟩ :=
      (Statement.rawForm_halves_iff halves).mp h
    rw [truth_implication facts halves, iha _ hcondition, ihb _ hconclusion, Statement.holds]
  | misshapen fields keys =>
    intro statement h
    exact absurd (Statement.areStatementKeys_of_rawForm h) keys

end Raw

namespace Predicate

/-- The raw statements of a predicate that was read are raw forms of its statements. -/
theorem forall₂_of_read_eq_ok {raw : Json} {predicate : Predicate} (h : read raw = .ok predicate) :
    List.Forall₂ RawForm (rawStatements raw) predicate.statements := by
  rw [read_eq] at h
  exact ofRawStatements_eq_ok_iff.mp h

/-- A predicate that was read holds of some facts if all raw statements are true of them. -/
theorem holds_eq_all_truth {raw : Json} {predicate : Predicate} (h : read raw = .ok predicate)
    (facts : List String) : predicate.holds facts = (rawStatements raw).all (Raw.truth facts) := by
  have hforms := forall₂_of_read_eq_ok h
  unfold holds
  generalize rawStatements raw = raws at hforms
  generalize predicate.statements = statements at hforms
  induction hforms with
  | nil => rfl
  | cons hraw _ ih => rw [List.all_cons, List.all_cons, ih, Raw.truth_eq_holds facts _ _ hraw]

/-- The same on any collection that answers as the list of its facts does. -/
theorem holds_eq_all_truth_of_alike {σ : Type} [FactSet σ] {collection : σ} {facts : List String}
    (halike : Alike collection facts) {raw : Json} {predicate : Predicate}
    (h : read raw = .ok predicate) :
    predicate.holds collection = (rawStatements raw).all (Raw.truth facts) := by
  rw [halike.predicate_holds_eq, holds_eq_all_truth h]

end Predicate

/-! ## Every kind of collection answers as the list of its facts -/

/-- Roll options are like the list of their facts. -/
theorem alike_sorted (options : RollOptions) : Alike options options.sorted where
  contains_eq _ := rfl
  value?_eq _ := rfl

/-- A hashed set is like its list, whatever order that has. -/
theorem alike_hashSet_toList (set : Std.HashSet String) : Alike set set.toList where
  contains_eq fact := by
    show set.contains fact = set.toList.contains fact
    rw [Bool.eq_iff_iff, List.contains_iff_mem, Std.HashSet.mem_toList, Std.HashSet.contains_iff_mem]
  value?_eq _ := rfl

/-- A sorted set is like its list, though it looks for readings in a stretch of it. -/
theorem alike_treeSet_toList (set : Std.TreeSet String) : Alike set set.toList where
  contains_eq fact := by
    show set.contains fact = set.toList.contains fact
    rw [Bool.eq_iff_iff, List.contains_iff_mem, Std.TreeSet.mem_toList, Std.TreeSet.contains_iff_mem]
  value?_eq path := by
    rw [FactSet.value?_treeSet, Fact.onlyReading?_stretch (pairwise_toList set)]
    rfl

namespace Statement

variable {σ : Type} [FactSet σ] (facts : σ) (statement : Statement)

/-- Of a statement and its negation exactly one holds. -/
theorem holds_one_not : (group .one [statement, not statement]).holds facts = true := by
  cases h : statement.holds facts <;>
    simp [holds, Connective.holds, Connective.exactlyOne, h]

/-- A statement implies itself. -/
theorem holds_implication_self : (implication statement statement).holds facts = true := by
  cases h : statement.holds facts <;> simp [holds, h]

/-- Two positions of a list count twice, whatever stands in them. -/
theorem holds_one_self : (group .one [statement, statement]).holds facts = false := by
  cases h : statement.holds facts <;>
    simp [holds, Connective.holds, Connective.exactlyOne, h]

/-- A statement and its negation never hold together. -/
theorem holds_all_not : (group .all [statement, not statement]).holds facts = false := by
  cases h : statement.holds facts <;> simp [holds, Connective.holds, h]

end Statement

/-- **Reading and testing follow the document.**

    A predicate that was read from a raw value holds of the facts of a collection exactly if all raw
    statements in the value are true of them, in whichever kind of collection they are; without any raw
    statement it holds.  So of a statement and its negation exactly one holds, and not both; a statement
    implies itself, and listed twice it is not exactly one that holds. -/
theorem holds_of_read_iff_truth :
    (∀ raw predicate, Predicate.read raw = .ok predicate →
      (∀ facts : List String,
        predicate.holds facts = (Predicate.rawStatements raw).all (Raw.truth facts)) ∧
      (∀ options : RollOptions,
        predicate.holds options = (Predicate.rawStatements raw).all (Raw.truth options.sorted)) ∧
      (∀ set : Std.HashSet String,
        predicate.holds set = (Predicate.rawStatements raw).all (Raw.truth set.toList)) ∧
      (∀ set : Std.TreeSet String,
        predicate.holds set = (Predicate.rawStatements raw).all (Raw.truth set.toList))) ∧
    (∀ (σ : Type) [FactSet σ] (facts : σ) (statement : Statement),
      (Statement.group .one [statement, .not statement]).holds facts = true ∧
      (Statement.implication statement statement).holds facts = true ∧
      (Statement.group .one [statement, statement]).holds facts = false ∧
      (Statement.group .all [statement, .not statement]).holds facts = false) := by
  constructor
  · intro raw predicate h
    exact ⟨Predicate.holds_eq_all_truth h,
      fun options => Predicate.holds_eq_all_truth_of_alike (alike_sorted options) h,
      fun set => Predicate.holds_eq_all_truth_of_alike (alike_hashSet_toList set) h,
      fun set => Predicate.holds_eq_all_truth_of_alike (alike_treeSet_toList set) h⟩
  · intro σ _ facts statement
    exact ⟨Statement.holds_one_not facts statement, Statement.holds_implication_self facts statement,
      Statement.holds_one_self facts statement, Statement.holds_all_not facts statement⟩

/-- Of two statements one is true, and the values of its fields make the other one false. -/
theorem one_of_two_holds_of_read :
    ∃ raw predicate, Predicate.read raw = .ok predicate ∧
      predicate.holds ["degree:2", "skill:7", "crit"] = true := by
  have hread : Predicate.read (.object [("xor", .list [.text "crit",
      .object [("gt", .list [.text "degree", .text "skill"])]])])
    = .ok ⟨[.group .one [.atom "crit", .comparison .greater (.field "degree") (.field "skill")]]⟩ := rfl
  refine ⟨_, _, hread, ?_⟩
  rw [(holds_of_read_iff_truth.1 _ _ hread).1]
  decide +kernel

end RollConditions
