/-
  The grammar of raw statements.

  `RawForm` says, rule by rule and without any reader, which JSON value is a raw form of which
  statement; `RawPredicate` does the same for predicates.  The reader accepts exactly what the rules
  derive, and returns the statement that they derive it for.  Both directions are one induction over the
  shapes of raw statements (`readAt_eq_ok_iff`): each shape falls under one rule or under none.
-/
import Mathlib.Data.List.Forall2
import RollConditions.Proofs.Shape

namespace RollConditions

/-! ## The rules

    The keys are listed here once more, as a user writes them: the rules do not look into the reader. -/

/-- The keys of objects with a list of statements. -/
def connectiveKeys : List (String × Connective) :=
  [("and", .all), ("or", .any), ("nor", .none), ("xor", .one)]

/-- The keys of objects with two operands. -/
def relationKeys : List (String × Comparison) :=
  [("gt", .greater), ("gte", .greaterEqual), ("lt", .less), ("lte", .lessEqual)]

/-- A raw operand: a text is the path of a field, a number is a literal. -/
inductive RawOperand : Json → Operand → Prop where
  | field (path : String) : RawOperand (.text path) (.field path)
  | literal (value : Json.Number) : RawOperand (.number value) (.literal value.toBinary64)

/-- A raw form of a statement.  What else an object may be is under no rule: an empty object, an unknown
    key, half of an implication, a third key beside the two halves, and one key given twice. -/
inductive RawForm : Json → Statement → Prop where
  /-- A text is a fact. -/
  | atom (fact : String) : RawForm (.text fact) (.atom fact)
  /-- The key `not`, with a statement. -/
  | not {raw : Json} {inner : Statement} (hinner : RawForm raw inner) :
    RawForm (.object [("not", raw)]) (.not inner)
  /-- The key of a connective, with a list of statements. -/
  | group {key : String} {connective : Connective} {raws : List Json} {items : List Statement}
    (hkey : (key, connective) ∈ connectiveKeys) (hitems : List.Forall₂ RawForm raws items) :
    RawForm (.object [(key, .list raws)]) (.group connective items)
  /-- The keys `if` and `then` and no other, with a statement each. -/
  | implication {fields : List (String × Json)} {a b : Json} {condition conclusion : Statement}
    (hfields : fields.Perm [("if", a), ("then", b)])
    (hcondition : RawForm a condition) (hconclusion : RawForm b conclusion) :
    RawForm (.object fields) (.implication condition conclusion)
  /-- The key of a relation, with a list of two operands. -/
  | comparison {key : String} {relation : Comparison} {a b : Json} {left right : Operand}
    (hkey : (key, relation) ∈ relationKeys) (hleft : RawOperand a left) (hright : RawOperand b right) :
    RawForm (.object [(key, .list [a, b])]) (.comparison relation left right)

/-- A raw form of a predicate. -/
inductive RawPredicate : Json → Predicate → Prop where
  /-- A list has one raw statement for each statement of the predicate, in their order. -/
  | list {raws : List Json} {statements : List Statement} (hraws : List.Forall₂ RawForm raws statements) :
    RawPredicate (.list raws) ⟨statements⟩
  /-- A raw statement is short for a list of it alone. -/
  | single {raw : Json} {statement : Statement} (hraw : RawForm raw statement) :
    RawPredicate raw ⟨[statement]⟩

/-- The keys in the rules are those that the reader knows. -/
theorem mem_connectiveKeys_iff {key : String} {connective : Connective} :
    (key, connective) ∈ connectiveKeys ↔ key = (Keyword.group connective).text := by
  cases connective <;> simp [connectiveKeys, Keyword.text, Connective.key]

/-- So are the keys of relations. -/
theorem mem_relationKeys_iff {key : String} {relation : Comparison} :
    (key, relation) ∈ relationKeys ↔ key = (Keyword.comparison relation).text := by
  cases relation <;> simp [relationKeys, Keyword.text, Comparison.key]

namespace Statement

/-! ## What each reader accepts

    The place where a reader stands is carried along for its errors.  It has no part in what is accepted, so
    the relation on the right of each statement does without it. -/

/-- An operand is read just if it is a text or a number, and then as that field or literal. -/
theorem readAt_operand_eq_ok_iff {place : String} {raw : Json} {operand : Operand} :
    Operand.readAt place raw = .ok operand ↔ RawOperand raw operand := by
  constructor
  · intro h
    cases raw with
    | text path =>
      obtain rfl := Except.ok.inj h
      exact .field path
    | number value =>
      obtain rfl := Except.ok.inj h
      exact .literal value
    | _ => cases h
  · rintro (path | value) <;> rfl

/-- A comparison is read just if its value is a list of two operands. -/
theorem readComparisonAt_eq_ok_iff {place : String} {relation : Comparison} {raw : Json}
    {statement : Statement} :
    readComparisonAt place relation raw = .ok statement ↔
      ∃ a b left right, raw = .list [a, b] ∧ RawOperand a left ∧ RawOperand b right ∧
        statement = .comparison relation left right := by
  constructor
  · intro h
    cases raw with
    | list items =>
      by_cases hlength : items.length = 2
      · obtain ⟨a, b, rfl⟩ := List.length_eq_two.mp hlength
        rw [readComparisonAt_pair] at h
        obtain ⟨left, hleft, h⟩ := bind_eq_ok_iff.mp h
        obtain ⟨right, hright, h⟩ := bind_eq_ok_iff.mp h
        exact ⟨a, b, left, right, rfl, readAt_operand_eq_ok_iff.mp hleft,
          readAt_operand_eq_ok_iff.mp hright, (Except.ok.inj h).symm⟩
      · -- a list of another length is refused before its operands are looked at
        rw [readComparisonAt_of_length_ne place relation hlength] at h
        cases h
    | _ =>
      rw [readComparisonAt_of_not_list place relation (by simp)] at h
      cases h
  · rintro ⟨a, b, left, right, rfl, hleft, hright, rfl⟩
    rw [readComparisonAt_pair, readAt_operand_eq_ok_iff.mpr hleft, readAt_operand_eq_ok_iff.mpr hright]
    rfl

/-- An implication is read just if both its halves are. -/
theorem readHalvesAt_eq_ok_iff {place : String} {a b : Json} {statement : Statement} :
    readHalvesAt place a b = .ok statement ↔
      ∃ condition conclusion, readAt (Step.extend place (.key .condition)) a = .ok condition ∧
        readAt (Step.extend place (.key .conclusion)) b = .ok conclusion ∧
        .implication condition conclusion = statement := by
  rw [readHalvesAt]
  constructor
  · intro h
    obtain ⟨condition, hcondition, h⟩ := bind_eq_ok_iff.mp h
    obtain ⟨conclusion, hconclusion, h⟩ := bind_eq_ok_iff.mp h
    exact ⟨condition, conclusion, hcondition, hconclusion, Except.ok.inj h⟩
  · rintro ⟨condition, conclusion, hcondition, hconclusion, rfl⟩
    rw [hcondition, hconclusion]
    rfl

/-- If the values of a list are read as a relation says, then so is the list, item by item. -/
theorem readItemsAt_eq_ok_iff {related : Json → Statement → Prop} {raws : List Json}
    (ih : ∀ raw ∈ raws, ∀ place statement,
      readAt place raw = .ok statement ↔ related raw statement)
    {place : String} {position : Nat} {items : List Statement} :
    readItemsAt place position raws = .ok items ↔ List.Forall₂ related raws items := by
  -- every item is read at a position of its own, so the position varies with the induction
  induction raws generalizing position items with
  | nil =>
    rw [readItemsAt, List.forall₂_nil_left_iff]
    exact ⟨fun h => (Except.ok.inj h).symm, fun h => by rw [h]⟩
  | cons raw rest ihrest =>
    obtain ⟨hraw, hrest⟩ := List.forall_mem_cons.mp ih
    rw [readItemsAt, List.forall₂_cons_left_iff]
    constructor
    · intro h
      obtain ⟨item, hitem, h⟩ := bind_eq_ok_iff.mp h
      obtain ⟨others, hothers, h⟩ := bind_eq_ok_iff.mp h
      exact ⟨item, others, (hraw _ _).mp hitem, (ihrest hrest).mp hothers, (Except.ok.inj h).symm⟩
    · rintro ⟨item, others, hitem, hothers, rfl⟩
      rw [(hraw _ _).mpr hitem, (ihrest hrest).mpr hothers]
      rfl

/-- The keys of an object that is a raw form are those of a statement. -/
theorem areStatementKeys_of_rawForm {fields : List (String × Json)} {statement : Statement}
    (h : RawForm (.object fields) statement) : AreStatementKeys (fields.map (·.1)) := by
  cases h with
  | not => exact Or.inl ⟨.negation, rfl, rfl⟩
  | group hkey =>
    rw [mem_connectiveKeys_iff] at hkey
    exact Or.inl ⟨_, rfl, congrArg (fun key => [key]) hkey⟩
  | implication hfields => exact Or.inr (hfields.map (·.1))
  | comparison hkey =>
    rw [mem_relationKeys_iff] at hkey
    exact Or.inl ⟨_, rfl, congrArg (fun key => [key]) hkey⟩

/-- The rule for an object with one key is the one for that key.  Half of an implication has no rule of
    its own. -/
theorem rawForm_single_iff {keyword : Keyword} {value : Json} {statement : Statement} :
    RawForm (.object [(keyword.text, value)]) statement ↔
      match keyword with
      | .negation => ∃ inner, RawForm value inner ∧ .not inner = statement
      | .group connective => ∃ raws items, value = .list raws ∧ List.Forall₂ RawForm raws items ∧
          .group connective items = statement
      | .comparison relation => ∃ a b left right, value = .list [a, b] ∧ RawOperand a left ∧
          RawOperand b right ∧ statement = .comparison relation left right
      | .condition | .conclusion => False := by
  constructor
  · -- a rule gives the key as a text, and different keywords have different texts
    intro h
    generalize hfields : [(keyword.text, value)] = fields at h
    cases h with
    | not hinner =>
      obtain ⟨hkey, rfl⟩ := Prod.mk.inj (List.singleton_inj.mp hfields)
      obtain rfl : keyword = .negation := Keyword.text_inj hkey
      exact ⟨_, hinner, rfl⟩
    | @group key connective raws items hlisted hitems =>
      obtain ⟨hkey, rfl⟩ := Prod.mk.inj (List.singleton_inj.mp hfields)
      rw [mem_connectiveKeys_iff] at hlisted
      obtain rfl : keyword = .group connective := Keyword.text_inj (hkey.trans hlisted)
      exact ⟨_, _, rfl, hitems, rfl⟩
    | implication hperm =>
      -- an implication has two keys
      rw [← hfields] at hperm
      exact absurd hperm.length_eq (by simp)
    | @comparison key relation a b left right hlisted hleft hright =>
      obtain ⟨hkey, rfl⟩ := Prod.mk.inj (List.singleton_inj.mp hfields)
      rw [mem_relationKeys_iff] at hlisted
      obtain rfl : keyword = .comparison relation := Keyword.text_inj (hkey.trans hlisted)
      exact ⟨_, _, _, _, rfl, hleft, hright, rfl⟩
  · intro h
    cases keyword with
    | negation =>
      obtain ⟨inner, hinner, rfl⟩ := h
      exact .not hinner
    | group connective =>
      obtain ⟨raws, items, rfl, hitems, rfl⟩ := h
      exact .group (mem_connectiveKeys_iff.mpr rfl) hitems
    | condition => exact h.elim
    | conclusion => exact h.elim
    | comparison relation =>
      obtain ⟨a, b, left, right, rfl, hleft, hright, rfl⟩ := h
      exact .comparison (mem_relationKeys_iff.mpr rfl) hleft hright

/-- The rule for an object with the two halves of an implication. -/
theorem rawForm_halves_iff {fields : List (String × Json)} {a b : Json} {statement : Statement}
    (halves : fields.Perm [(Keyword.condition.text, a), (Keyword.conclusion.text, b)]) :
    RawForm (.object fields) statement ↔
      ∃ condition conclusion, RawForm a condition ∧ RawForm b conclusion ∧
        .implication condition conclusion = statement := by
  constructor
  · intro h
    generalize hvalue : Json.object fields = value at h
    cases h with
    | atom _ => cases hvalue
    | implication hperm hcondition hconclusion =>
      obtain rfl := Json.object.inj hvalue
      -- the two orders of the same halves name the same values
      rcases List.perm_pair.mp (hperm.symm.trans halves) with heq | heq
      · cases heq
        exact ⟨_, _, hcondition, hconclusion, rfl⟩
      · have hkey : "if" = Keyword.conclusion.text := (Prod.mk.inj (List.cons.inj heq).1).1
        exact absurd hkey (by decide)
    | _ =>
      -- every other rule makes an object with one key
      obtain rfl := Json.object.inj hvalue
      exact absurd halves.length_eq (by simp)
  · rintro ⟨condition, conclusion, hcondition, hconclusion, rfl⟩
    exact .implication halves hcondition hconclusion

/-- **The reader accepts the grammar.**  By induction on the value; the place plays no part in it. -/
theorem readAt_eq_ok_iff (raw : Json) : ∀ place statement,
    readAt place raw = .ok statement ↔ RawForm raw statement := by
  induction raw using raw_induction with
  | null | bool _ | number _ | list _ =>
    -- refused by the reader, and derived by no rule
    intro place statement
    constructor
    · intro h
      cases h
    · intro h
      cases h
  | text fact =>
    intro place statement
    rw [readAt_text]
    constructor
    · intro h
      obtain rfl := Except.ok.inj h
      exact .atom fact
    · intro h
      cases h
      rfl
  -- from here on the equation of the shape meets the rule for its key
  | negation value ih =>
    intro place statement
    rw [readAt_negation, map_eq_ok_iff, rawForm_single_iff]
    simp only [ih]
  | group connective items ih =>
    intro place statement
    rw [readAt_group, map_eq_ok_iff, rawForm_single_iff]
    constructor
    · rintro ⟨read, hread, heq⟩
      exact ⟨items, read, rfl, (readItemsAt_eq_ok_iff ih).mp hread, heq⟩
    · rintro ⟨raws, read, hraws, hitems, heq⟩
      obtain rfl := Json.list.inj hraws
      exact ⟨read, (readItemsAt_eq_ok_iff ih).mpr hitems, heq⟩
  | groupOfOther connective value notList =>
    -- the rule for a connective wants a list as well
    intro place statement
    rw [readAt_group_of_not_list place connective notList, rawForm_single_iff]
    constructor
    · intro h
      cases h
    · rintro ⟨raws, _, heq, _⟩
      exact absurd heq (notList raws)
  | comparison relation value =>
    intro place statement
    rw [readAt_comparison, readComparisonAt_eq_ok_iff, rawForm_single_iff]
  | implication fields a b halves iha ihb =>
    intro place statement
    rw [readAt_implication place halves, rawForm_halves_iff halves, readHalvesAt_eq_ok_iff]
    simp only [iha, ihb]
  | misshapen fields keys =>
    -- refused, and the rules derive nothing from such keys either
    intro place statement
    rw [readAt_misshapen place keys]
    constructor
    · intro h
      cases h
    · intro h
      exact absurd (areStatementKeys_of_rawForm h) keys

/-- At the beginning of a document the place is empty. -/
theorem read_eq_ok_iff {raw : Json} {statement : Statement} :
    read raw = .ok statement ↔ RawForm raw statement :=
  readAt_eq_ok_iff raw "" statement

/-- A value is refused just if it is a raw form of nothing. -/
theorem read_eq_error_iff {raw : Json} :
    (∃ error, read raw = .error error) ↔ ¬ ∃ statement, RawForm raw statement := by
  constructor
  · rintro ⟨error, herror⟩ ⟨statement, hform⟩
    rw [read_eq_ok_iff.mpr hform] at herror
    cases herror
  · intro hnone
    cases hread : read raw with
    | ok statement => exact absurd ⟨statement, read_eq_ok_iff.mp hread⟩ hnone
    | error error => exact ⟨error, rfl⟩

end Statement

namespace Predicate

/-! ## Predicates -/

/-- A list is accepted, item by item and in order, with as many statements as it has items. -/
theorem ofRawStatements_eq_ok_iff {raws : List Json} {predicate : Predicate} :
    ofRawStatements raws = .ok predicate ↔ List.Forall₂ RawForm raws predicate.statements := by
  rw [ofRawStatements, map_eq_ok_iff]
  constructor
  · rintro ⟨statements, hread, rfl⟩
    exact (Statement.readItemsAt_eq_ok_iff (fun raw _ => Statement.readAt_eq_ok_iff raw)).mp hread
  · intro hforms
    refine ⟨predicate.statements, ?_, rfl⟩
    exact (Statement.readItemsAt_eq_ok_iff (fun raw _ => Statement.readAt_eq_ok_iff raw)).mpr hforms

/-- A single raw statement is accepted as a list of it alone. -/
theorem ofRawStatements_single_eq_ok_iff {raw : Json} {predicate : Predicate} :
    ofRawStatements [raw] = .ok predicate ↔
      ∃ statement, RawForm raw statement ∧ predicate = ⟨[statement]⟩ := by
  rw [ofRawStatements_eq_ok_iff, List.forall₂_cons_left_iff]
  constructor
  · rintro ⟨statement, rest, hform, hrest, heq⟩
    rw [List.forall₂_nil_left_iff.mp hrest] at heq
    exact ⟨statement, hform, congrArg Predicate.mk heq⟩
  · rintro ⟨statement, hform, rfl⟩
    exact ⟨statement, [], hform, .nil, rfl⟩

/-- No rule makes a statement of a list. -/
theorem not_list_of_rawForm {raw : Json} {statement : Statement} (h : RawForm raw statement) :
    ∀ items, raw ≠ .list items := by
  rintro items rfl
  cases h

/-- A predicate is read just if the rules derive it, from a list or from a statement alone. -/
theorem read_eq_ok_iff {raw : Json} {predicate : Predicate} :
    read raw = .ok predicate ↔ RawPredicate raw predicate := by
  constructor
  · intro h
    by_cases hlist : ∃ raws, raw = .list raws
    · obtain ⟨raws, rfl⟩ := hlist
      exact .list (ofRawStatements_eq_ok_iff.mp h)
    · rw [read_of_not_list (fun items heq => hlist ⟨items, heq⟩)] at h
      obtain ⟨statement, hform, rfl⟩ := ofRawStatements_single_eq_ok_iff.mp h
      exact .single hform
  · rintro (hraws | hraw)
    · exact ofRawStatements_eq_ok_iff.mpr hraws
    · -- no statement is a list, so the reader takes this value for a statement too
      rw [read_of_not_list (not_list_of_rawForm hraw)]
      exact ofRawStatements_single_eq_ok_iff.mpr ⟨_, hraw, rfl⟩

end Predicate

/-! ## The grammar as a whole -/

/-- Some statements have the raw forms of a list just if every item is a raw form of some statement. -/
theorem exists_forall₂_rawForm_iff {raws : List Json} :
    (∃ statements, List.Forall₂ RawForm raws statements) ↔
      ∀ raw ∈ raws, ∃ statement, RawForm raw statement := by
  induction raws with
  | nil => simp
  | cons raw rest ih =>
    rw [List.forall_mem_cons, ← ih]
    constructor
    · rintro ⟨_, hforms⟩
      obtain ⟨statement, others, hraw, hrest, -⟩ := List.forall₂_cons_left_iff.mp hforms
      exact ⟨⟨statement, hraw⟩, others, hrest⟩
    · rintro ⟨⟨statement, hraw⟩, others, hrest⟩
      exact ⟨statement :: others, .cons hraw hrest⟩

/-- **The reader accepts the grammar and nothing else.**

    What is read is the statement that the rules derive, exactly or, just as well, up to operands that
    agree; a value that the rules derive nothing for is refused.  The same holds of predicates: a list is
    accepted if every item is a raw form, any other value if it is one itself. -/
theorem read_eq_ok_iff_rawForm :
    (∀ raw statement, Statement.read raw = .ok statement ↔ RawForm raw statement) ∧
    (∀ raw statement, (∃ found, Statement.read raw = .ok found ∧ found.agrees statement = true) ↔
      ∃ found, RawForm raw found ∧ found.agrees statement = true) ∧
    (∀ raw, (∃ error, Statement.read raw = .error error) ↔ ¬ ∃ statement, RawForm raw statement) ∧
    (∀ raw predicate, Predicate.read raw = .ok predicate ↔ RawPredicate raw predicate) ∧
    (∀ raws, (∃ predicate, Predicate.read (.list raws) = .ok predicate) ↔
      ∀ raw ∈ raws, ∃ statement, RawForm raw statement) ∧
    (∀ raw, (∀ items, raw ≠ .list items) →
      ((∃ predicate, Predicate.read raw = .ok predicate) ↔ ∃ statement, RawForm raw statement)) := by
  -- the second clause follows from the first, and the last two ask only whether anything is read
  refine ⟨fun _ _ => Statement.read_eq_ok_iff, ?_, fun _ => Statement.read_eq_error_iff,
    fun _ _ => Predicate.read_eq_ok_iff, ?_, ?_⟩
  · intro raw statement
    simp only [Statement.read_eq_ok_iff]
  · intro raws
    rw [← exists_forall₂_rawForm_iff]
    constructor
    · rintro ⟨predicate, hread⟩
      exact ⟨predicate.statements, Predicate.ofRawStatements_eq_ok_iff.mp hread⟩
    · rintro ⟨statements, hforms⟩
      exact ⟨⟨statements⟩, Predicate.ofRawStatements_eq_ok_iff.mpr hforms⟩
  · intro raw hlist
    rw [Predicate.read_of_not_list hlist]
    constructor
    · rintro ⟨predicate, hread⟩
      obtain ⟨statement, hform, -⟩ := Predicate.ofRawStatements_single_eq_ok_iff.mp hread
      exact ⟨statement, hform⟩
    · rintro ⟨statement, hform⟩
      exact ⟨⟨[statement]⟩, Predicate.ofRawStatements_single_eq_ok_iff.mpr ⟨statement, hform, rfl⟩⟩

end RollConditions
