/-
  The normal form of a raw statement.

  A statement that was read can always be written again.  What is written may differ from what was read,
  but only in the literals of comparisons: a number is read as a binary64 one, and is written as a whole
  number if it stands for one below `2 ^ 63`, and as a binary64 number otherwise.  `IsNormalOf` says how the
  two numbers hang together, and `SameButLiterals` that the values around them are the same.

    * READING.  Every number of a document is finite when it is read, since 64 bits are far from the end of
      the range (`exists_toBinary64_eq`), and a whole number of at most 53 bits is read exactly
      (`whole?_ofInt`).
    * WRITING.  The written form of a number depends on its place on the line alone, and so not on the sign
      of a zero, which is all that reading it again can lose (`literalToRaw_plainZero`).  Hence what is
      written once is written again in the same way.
-/
import RollConditions.Proofs.Grammar
import RollConditions.Proofs.RoundTrip

namespace RollConditions

/-! ## Reading whole numbers -/

/-- A power of two fits twice into every greater one. -/
theorem pow_two_add_self_le {exponent greater : Nat} (h : exponent < greater) :
    Nat.pow 2 exponent + Nat.pow 2 exponent ≤ Nat.pow 2 greater := by
  rw [Nat.pow_eq, Nat.pow_eq, ← Nat.mul_two, ← Nat.pow_succ]
  exact Nat.pow_le_pow_right (by omega) h

/-- A count below a power of two, times another power of two. -/
theorem mul_pow_two_lt {count bits : Nat} (exponent : Nat) (h : count < Nat.pow 2 bits) :
    count * Nat.pow 2 exponent < Nat.pow 2 (bits + exponent) := by
  rw [Nat.pow_eq, Nat.pow_eq, Nat.pow_add]
  exact Nat.mul_lt_mul_of_pos_right h (Nat.two_pow_pos exponent)

namespace Magnitude

/-- Rounding adds less than a step. -/
theorem roundedUnits_le (units : Nat) : roundedUnits units 1 ≤ units + gridStep units := by
  have hrounded : roundHalfEven units (gridStep units) ≤ units / gridStep units + 1 := by
    rcases roundHalfEven_eq_or units (gridStep units) with h | h <;> omega
  have hdown : units / gridStep units * gridStep units ≤ units := Nat.div_mul_le_self _ _
  calc roundedUnits units 1
      = roundHalfEven units (gridStep units) * gridStep units := roundedUnits_one units
    _ ≤ (units / gridStep units + 1) * gridStep units := Nat.mul_le_mul_right _ hrounded
    _ = units / gridStep units * gridStep units + gridStep units := by rw [Nat.add_mul, Nat.one_mul]
    _ ≤ units + gridStep units := by omega

/-- Far from the end of the range nothing is rounded past it. -/
theorem roundedUnits_lt_rangeEnd {units bits : Nat} (hunits : units < Nat.pow 2 bits)
    (hbits : bits < unitExponent + 1024) : roundedUnits units 1 < rangeEnd := by
  have hlog : units.log2 - 52 ≤ bits := by
    rcases Nat.eq_zero_or_pos units with hzero | hpos
    · subst hzero
      simp
    · have hlt : units.log2 < bits := (Nat.log2_lt (by omega)).mpr hunits
      omega
  have hstep : gridStep units ≤ Nat.pow 2 bits := by
    rw [gridStep, Nat.pow_eq, Nat.pow_eq]
    exact Nat.pow_le_pow_right (by omega) hlog
  have hend : Nat.pow 2 bits + Nat.pow 2 bits ≤ rangeEnd := by
    unfold rangeEnd
    exact pow_two_add_self_le hbits
  have hrounded := roundedUnits_le units
  omega

end Magnitude

namespace Binary64

/-- A whole number that is not rounded past the end of the range is read as that many units. -/
theorem ofInt_eq_finite {value : Int} {bits : Nat} (h : value.natAbs < Nat.pow 2 bits)
    (hbits : bits < 1024) :
    ∃ m : Magnitude, ofInt value = finite (decide (value < 0)) m ∧
      m.units = Magnitude.roundedUnits (value.natAbs * unitsPerOne) 1 := by
  have hunits : value.natAbs * unitsPerOne < Nat.pow 2 (bits + unitExponent) := by
    unfold unitsPerOne
    exact mul_pow_two_lt unitExponent h
  have hrange : Magnitude.roundedUnits (value.natAbs * unitsPerOne) 1 < rangeEnd :=
    Magnitude.roundedUnits_lt_rangeEnd hunits (by omega)
  refine ⟨⟨Magnitude.roundedUnits (value.natAbs * unitsPerOne) 1,
    Magnitude.gridStep_dvd_roundedUnits _ _, hrange⟩, ?_, rfl⟩
  unfold ofInt ofRatio Magnitude.nearest?
  rw [dif_pos hrange, Option.elim_some]

/-- A number with the units of a whole number stands for that. -/
theorem whole?_of_units_eq {negative : Bool} {m : Magnitude} {count : Nat}
    (h : m.units = count * unitsPerOne) : (finite negative m).whole? = some (signed negative count) := by
  rw [whole?, h, if_pos (Nat.mul_mod_left _ _), Nat.mul_div_cancel _ unitsPerOne_pos]

/-- A whole number of at most 53 bits lies on the grid. -/
theorem gridStep_dvd_mul_unitsPerOne {count : Nat} (h : count ≤ Nat.pow 2 53) :
    gridStep (count * unitsPerOne) ∣ count * unitsPerOne := by
  unfold unitsPerOne
  exact gridStep_dvd_mul_pow unitExponent h

/-- **A whole number of at most 53 bits is read exactly.** -/
theorem whole?_ofInt {value : Int} (h : value.natAbs ≤ Nat.pow 2 53) :
    (ofInt value).whole? = some value := by
  have hgrid := gridStep_dvd_mul_unitsPerOne h
  have hsmall : value.natAbs < Nat.pow 2 54 := Nat.lt_of_le_of_lt h (by decide)
  obtain ⟨m, hvalue, hunits⟩ := ofInt_eq_finite hsmall (by decide)
  rw [Magnitude.roundedUnits_of_dvd hgrid] at hunits
  rw [hvalue, whole?_of_units_eq hunits]
  apply congrArg some
  rcases Int.lt_or_le value 0 with hneg | hpos
  · rw [decide_eq_true hneg]
    show -(value.natAbs : Int) = value
    omega
  · rw [decide_eq_false (by omega)]
    show (value.natAbs : Int) = value
    omega

end Binary64

/-- Every number of a document is finite when it is read. -/
theorem Json.Number.exists_toBinary64_eq (number : Json.Number) :
    ∃ negative m, number.toBinary64 = .finite negative m := by
  cases number with
  | whole value inRange =>
    obtain ⟨hlow, hhigh⟩ := inRange
    have hbits : Nat.pow 2 65 = 0x20000000000000000 := rfl
    have hsmall : value.natAbs < Nat.pow 2 65 := by omega
    obtain ⟨m, hvalue, -⟩ := Binary64.ofInt_eq_finite hsmall (by decide)
    exact ⟨_, m, hvalue⟩
  | float negative magnitude => exact ⟨negative, magnitude, rfl⟩

theorem Json.Number.toBinary64_isFinite (number : Json.Number) : number.toBinary64.isFinite = true := by
  obtain ⟨negative, m, hvalue⟩ := number.exists_toBinary64_eq
  rw [hvalue]
  rfl

/-! ## Writing literals -/

/-- How a number is written that was read. -/
structure IsNormalOf (old new : Json.Number) : Prop where
  /-- The two are numerically equal. -/
  same_value : new.toBinary64.eq old.toBinary64 = true
  /-- It is written as a whole number exactly if it stands for one below `2 ^ 63`. -/
  whole_iff : (∃ value inRange, new = .whole value inRange) ↔
    ∃ value, old.toBinary64.whole? = some value ∧ value.natAbs < 0x8000000000000000
  /-- A whole number of at most 53 bits is written as it was. -/
  same_whole : ∀ value inRange, old = .whole value inRange → value.natAbs ≤ 0x20000000000000 → new = old

namespace Operand

/-- A finite literal is written as a whole number if it stands for one below `2 ^ 63`. -/
theorem literalToRaw_of_whole? {value : Binary64} {whole : Int} (h : value.whole? = some whole)
    (hsmall : whole.natAbs < 0x8000000000000000) :
    ∃ inRange, literalToRaw value = .number (.whole whole inRange) := by
  have hrange : Json.IsWholeRange whole := by
    unfold Json.IsWholeRange
    omega
  refine ⟨hrange, ?_⟩
  rw [literalToRaw, h]
  show (if whole.natAbs < 0x8000000000000000 then Json.ofInt whole else Json.ofBinary64 value) = _
  rw [if_pos hsmall, Json.ofInt, dif_pos hrange]

/-- Every other finite literal is written as a binary64 number. -/
theorem literalToRaw_of_not_whole {negative : Bool} {m : Magnitude}
    (h : ¬ ∃ whole, (Binary64.finite negative m).whole? = some whole ∧ whole.natAbs < 0x8000000000000000) :
    literalToRaw (.finite negative m) = .number (.float negative m) := by
  rw [literalToRaw]
  cases hwhole : (Binary64.finite negative m).whole? with
  | none => rfl
  | some whole =>
    have hlarge : ¬ whole.natAbs < 0x8000000000000000 := fun hsmall => h ⟨whole, hwhole, hsmall⟩
    show (if whole.natAbs < 0x8000000000000000 then Json.ofInt whole else _) = _
    rw [if_neg hlarge]
    rfl

/-- **What is written for a number that was read is its normal form.** -/
theorem exists_isNormalOf (old : Json.Number) :
    ∃ new, literalToRaw old.toBinary64 = .number new ∧ IsNormalOf old new := by
  obtain ⟨negative, m, hold⟩ := old.exists_toBinary64_eq
  have hexact : ∀ value inRange, old = .whole value inRange → value.natAbs ≤ 0x20000000000000 →
      (Binary64.finite negative m).whole? = some value := by
    rintro value inRange rfl hsmall
    rw [← hold]
    exact Binary64.whole?_ofInt hsmall
  by_cases hwhole : ∃ whole, (Binary64.finite negative m).whole? = some whole ∧
      whole.natAbs < 0x8000000000000000
  · obtain ⟨whole, hvalue, hsmall⟩ := hwhole
    obtain ⟨inRange, hraw⟩ := literalToRaw_of_whole? hvalue hsmall
    -- a whole number that the format holds is read as itself, but a zero has no sign
    have hback : (Json.Number.whole whole inRange).toBinary64 = (Binary64.finite negative m).plainZero :=
      Binary64.ofInt_of_whole? hvalue
    refine ⟨.whole whole inRange, by rw [hold, hraw], ?_, ?_, ?_⟩
    · rw [hback, hold]
      exact Binary64.eq_iff.mpr ⟨_, Binary64.place?_plainZero _, rfl⟩
    · rw [hold]
      exact ⟨fun _ => ⟨whole, hvalue, hsmall⟩, fun _ => ⟨whole, inRange, rfl⟩⟩
    · rintro value _ rfl hvaluesmall
      have hvalue' := hexact value _ rfl hvaluesmall
      obtain rfl : value = whole := Option.some.inj (hvalue'.symm.trans hvalue)
      rfl
  · refine ⟨.float negative m, by rw [hold, literalToRaw_of_not_whole hwhole], ?_, ?_, ?_⟩
    · rw [hold]
      exact Binary64.eq_iff.mpr ⟨_, rfl, rfl⟩
    · rw [hold]
      constructor
      · rintro ⟨value, inRange, hnew⟩
        cases hnew
      · intro h
        exact absurd h hwhole
    · -- so small a whole number would have been written as one
      intro value inRange hvalue hvaluesmall
      exact absurd ⟨value, hexact value inRange hvalue hvaluesmall, by omega⟩ hwhole

/-- The sign of a zero does not show in what is written. -/
theorem literalToRaw_plainZero (value : Binary64) : literalToRaw value.plainZero = literalToRaw value := by
  cases value with
  | finite negative m =>
    by_cases hzero : m.units = 0
    · rw [Binary64.plainZero, literalToRaw, literalToRaw, Binary64.whole?_of_units_eq_zero hzero,
        Binary64.whole?_of_units_eq_zero hzero]
      rfl
    · rw [Binary64.plainZero_of_units_ne_zero hzero]
  | infinite negative => rfl
  | nan => rfl

theorem toRaw_plainZeros (operand : Operand) : operand.plainZeros.toRaw = operand.toRaw := by
  cases operand with
  | field path => rfl
  | literal value => exact literalToRaw_plainZero value

end Operand

/-! ## The values around the literals -/

/-- Two raw operands that are the same path, or related numbers. -/
inductive SameOperand (related : Json.Number → Json.Number → Prop) : Json → Json → Prop where
  | field (path : String) : SameOperand related (.text path) (.text path)
  | literal {old new : Json.Number} (h : related old new) :
    SameOperand related (.number old) (.number new)

/-- Two values that are the same but for the literals of comparisons in them, which are related.  The
    order of the fields of an object is no part of the value. -/
inductive SameButLiterals (related : Json.Number → Json.Number → Prop) : Json → Json → Prop where
  | text (fact : String) : SameButLiterals related (.text fact) (.text fact)
  | list {items others : List Json} (hitems : List.Forall₂ (SameButLiterals related) items others) :
    SameButLiterals related (.list items) (.list others)
  | object {fields ordered others : List (String × Json)} (horder : fields.Perm ordered)
    (hnames : ordered.map (·.1) = others.map (·.1))
    (hvalues : List.Forall₂ (SameButLiterals related) (ordered.map (·.2)) (others.map (·.2))) :
    SameButLiterals related (.object fields) (.object others)
  /-- The operands of a comparison. -/
  | comparison {key : String} {relation : Comparison} {a b c d : Json}
    (hkey : (key, relation) ∈ relationKeys) (hleft : SameOperand related a c)
    (hright : SameOperand related b d) :
    SameButLiterals related (.object [(key, .list [a, b])]) (.object [(key, .list [c, d])])

namespace Statement

theorem sameOperand_of_rawOperand {raw : Json} {operand : Operand} (h : RawOperand raw operand) :
    SameOperand IsNormalOf raw operand.toRaw := by
  cases h with
  | field path => exact .field path
  | literal value =>
    obtain ⟨new, hraw, hnormal⟩ := Operand.exists_isNormalOf value
    rw [Operand.toRaw, hraw]
    exact .literal hnormal

theorem isFinite_of_rawOperand {raw : Json} {operand : Operand} (h : RawOperand raw operand) :
    operand.isFinite = true := by
  cases h with
  | field path => rfl
  | literal value => exact value.toBinary64_isFinite

/-- What is related one by one to some values is related to their images, if each value is to its
    own. -/
theorem forall₂_map_right {α β γ : Type} {holds : α → β → Prop} {related : α → γ → Prop} {f : β → γ}
    {xs : List α} {ys : List β} (h : List.Forall₂ holds xs ys)
    (himage : ∀ x ∈ xs, ∀ y, holds x y → related x (f y)) : List.Forall₂ related xs (ys.map f) := by
  induction h with
  | nil => exact .nil
  | cons hhead _ ih =>
    obtain ⟨hx, hrest⟩ := List.forall_mem_cons.mp himage
    exact .cons (hx _ hhead) (ih hrest)

/-- What all images have is had by everything that is related to something. -/
theorem forall_mem_of_forall₂ {α β : Type} {holds : α → β → Prop} {property : β → Prop}
    {xs : List α} {ys : List β} (h : List.Forall₂ holds xs ys)
    (himage : ∀ x ∈ xs, ∀ y, holds x y → property y) : ∀ y ∈ ys, property y := by
  induction h with
  | nil => exact fun y hy => absurd hy List.not_mem_nil
  | cons hhead _ ih =>
    obtain ⟨hx, hrest⟩ := List.forall_mem_cons.mp himage
    exact List.forall_mem_cons.mpr ⟨hx _ hhead, ih hrest⟩

/-- **Only literals are written differently.**  By induction over the shapes of raw statements. -/
theorem sameButLiterals_of_rawForm (raw : Json) : ∀ statement, RawForm raw statement →
    SameButLiterals IsNormalOf raw statement.toRaw := by
  induction raw using raw_induction with
  | null | bool _ | number _ | list _ =>
    intro statement h
    cases h
  | text fact =>
    intro statement h
    cases h
    exact .text fact
  | negation value ih =>
    intro statement h
    obtain ⟨inner, hinner, rfl⟩ := rawForm_single_iff.mp h
    exact .object (List.Perm.refl _) rfl (.cons (ih inner hinner) .nil)
  | group connective items ih =>
    intro statement h
    obtain ⟨raws, statements, hraws, hforms, rfl⟩ := rawForm_single_iff.mp h
    obtain rfl := Json.list.inj hraws
    have hitems : SameButLiterals IsNormalOf (.list items) (.list (statements.map toRaw)) :=
      .list (forall₂_map_right hforms ih)
    rw [toRaw, listToRaw_eq_map]
    exact .object (List.Perm.refl _) rfl (.cons hitems .nil)
  | groupOfOther connective value notList =>
    intro statement h
    obtain ⟨raws, _, heq, _⟩ := rawForm_single_iff.mp h
    exact absurd heq (notList raws)
  | comparison relation value =>
    intro statement h
    obtain ⟨a, b, left, right, rfl, hleft, hright, rfl⟩ := rawForm_single_iff.mp h
    exact .comparison (mem_relationKeys_iff.mpr rfl) (sameOperand_of_rawOperand hleft)
      (sameOperand_of_rawOperand hright)
  | implication fields a b halves iha ihb =>
    intro statement h
    obtain ⟨condition, conclusion, hcondition, hconclusion, rfl⟩ := (rawForm_halves_iff halves).mp h
    exact .object halves rfl (.cons (iha condition hcondition) (.cons (ihb conclusion hconclusion) .nil))
  | misshapen fields keys =>
    intro statement h
    exact absurd (areStatementKeys_of_rawForm h) keys

/-- All literals of a statement that was read are finite. -/
theorem isFinite_of_rawForm (raw : Json) : ∀ statement, RawForm raw statement →
    statement.isFinite = true := by
  induction raw using raw_induction with
  | null | bool _ | number _ | list _ =>
    intro statement h
    cases h
  | text fact =>
    intro statement h
    cases h
    rfl
  | negation value ih =>
    intro statement h
    obtain ⟨inner, hinner, rfl⟩ := rawForm_single_iff.mp h
    exact ih inner hinner
  | group connective items ih =>
    intro statement h
    obtain ⟨raws, statements, hraws, hforms, rfl⟩ := rawForm_single_iff.mp h
    obtain rfl := Json.list.inj hraws
    rw [isFinite, listIsFinite_eq_all, List.all_eq_true]
    exact forall_mem_of_forall₂ hforms ih
  | groupOfOther connective value notList =>
    intro statement h
    obtain ⟨raws, _, heq, _⟩ := rawForm_single_iff.mp h
    exact absurd heq (notList raws)
  | comparison relation value =>
    intro statement h
    obtain ⟨a, b, left, right, rfl, hleft, hright, rfl⟩ := rawForm_single_iff.mp h
    rw [isFinite, isFinite_of_rawOperand hleft, isFinite_of_rawOperand hright]
    rfl
  | implication fields a b halves iha ihb =>
    intro statement h
    obtain ⟨condition, conclusion, hcondition, hconclusion, rfl⟩ := (rawForm_halves_iff halves).mp h
    rw [isFinite, iha condition hcondition, ihb conclusion hconclusion]
    rfl
  | misshapen fields keys =>
    intro statement h
    exact absurd (areStatementKeys_of_rawForm h) keys

/-! ## Writing again -/

theorem map_toRaw_listPlainZeros {items : List Statement}
    (ih : ∀ item ∈ items, item.plainZeros.toRaw = item.toRaw) :
    (listPlainZeros items).map toRaw = items.map toRaw := by
  induction items with
  | nil => rfl
  | cons item rest ihrest =>
    obtain ⟨hitem, hrest⟩ := List.forall_mem_cons.mp ih
    rw [listPlainZeros, List.map_cons, List.map_cons, hitem, ihrest hrest]

/-- The signs of zeros do not show in the raw form of a statement. -/
theorem toRaw_plainZeros (statement : Statement) : statement.plainZeros.toRaw = statement.toRaw := by
  induction statement with
  | atom fact => rfl
  | not inner ih => rw [plainZeros, toRaw, toRaw, ih]
  | group connective items ih =>
    rw [plainZeros, toRaw, toRaw, listToRaw_eq_map, listToRaw_eq_map, map_toRaw_listPlainZeros ih]
  | implication condition conclusion ihcondition ihconclusion =>
    rw [plainZeros, toRaw, toRaw, ihcondition, ihconclusion]
  | comparison relation left right =>
    rw [plainZeros, toRaw, toRaw, left.toRaw_plainZeros, right.toRaw_plainZeros]

/-- A statement with finite literals is read back, but for the signs of its zeros. -/
theorem read_toRaw_of_isFinite {statement : Statement} (h : statement.isFinite = true) :
    read statement.toRaw = .ok statement.plainZeros := by
  have hnone : Literal.firstNotFinite? statement.literals = none :=
    firstNotFinite?_eq_none_iff.mpr ((isFinite_iff statement).mp h)
  rw [read, readAt_toRaw, hnone]
  rfl

end Statement

/-- **What was read has a normal form.**

    A statement that was read from a raw value has finite literals only, so it can be written.  Its raw
    form is the value that it was read from, but for the literals of comparisons: each number has become a
    numerically equal one, which is a whole number exactly if it stands for one below `2 ^ 63`, and which
    is the same number as before if that was a whole one of at most 53 bits.  The raw form can be read, and
    what is read from it has that same raw form. -/
theorem raw_form_is_normal_form {raw : Json} {statement : Statement}
    (h : Statement.read raw = .ok statement) :
    statement.isFinite = true ∧
    statement.written? = .ok statement.toRaw ∧
    SameButLiterals IsNormalOf raw statement.toRaw ∧
    ∃ again, Statement.read statement.toRaw = .ok again ∧ again.toRaw = statement.toRaw := by
  have hform : RawForm raw statement := Statement.read_eq_ok_iff.mp h
  have hfinite : statement.isFinite = true := Statement.isFinite_of_rawForm raw statement hform
  have hwritten : statement.written? = .ok statement.toRaw := by
    rw [Statement.written?, if_pos hfinite]
  exact ⟨hfinite, hwritten, Statement.sameButLiterals_of_rawForm raw statement hform,
    statement.plainZeros, Statement.read_toRaw_of_isFinite hfinite, statement.toRaw_plainZeros⟩

/-- An odd whole number of 54 bits, which is no binary64 number, and a zero with a sign. -/
def roundedAndSigned : Json :=
  .object [("then", .text "crit"),
    ("if", .object [("gte", .list [.number (.whole 9007199254740993 (by decide)),
      .number (.float true Magnitude.zero)])])]

/-- The one is written rounded, and the other without its sign. -/
theorem rounded_and_signed_in_normal_form :
    ∃ statement, Statement.read roundedAndSigned = .ok statement ∧
      (∃ again, Statement.read statement.toRaw = .ok again ∧ again.toRaw = statement.toRaw) ∧
      statement.toRaw.compact
        = "\x7b\"if\":\x7b\"gte\":[9007199254740992,0]\x7d,\"then\":\"crit\"\x7d" := by
  have hread : Statement.read roundedAndSigned
      = .ok (.implication (.comparison .greaterEqual (.literal (.ofInt 9007199254740993))
          (.literal (.finite true Magnitude.zero))) (.atom "crit")) := rfl
  exact ⟨_, hread, (raw_form_is_normal_form hread).2.2.2, by decide +kernel⟩

end RollConditions
