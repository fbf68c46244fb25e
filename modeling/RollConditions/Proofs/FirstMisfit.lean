/-
  The first misfit of a document is the one that is reported.

  The readers stop at the first thing that is wrong.  `misfits` is the opposite: it goes through the whole
  of a raw value and never stops.  A value stands in a ROLE: it is to be a statement, the items of a
  connective, the operands of a relation, or an operand.  If it does not fit its role, it is a misfit, and
  nothing in it is looked at; if it fits, each of its parts has a role of its own, and their misfits are
  listed part after part, in the order of the document.

  Reading comes to the head of that list (`refusal?_readAt`): wherever one reader is run after another, the
  first refusal of both is that of the first one, or else that of the second, and the head of two lists
  one after the other is found in the same way.
-/
import RollConditions.Proofs.PlaceText
import RollConditions.Proofs.Shape

namespace RollConditions

/-! ## Roles and parts -/

/-- What a value inside a raw statement is to be. -/
inductive Role where
  | statement
  /-- The items of a connective: a list of statements. -/
  | items (connective : Connective)
  /-- The operands of a relation: a list of two. -/
  | operands (relation : Comparison)
  | operand
deriving DecidableEq

/-- What the value of a key is to be. -/
def Keyword.role : Keyword → Role
  | negation | condition | conclusion => .statement
  | group connective => .items connective
  | comparison relation => .operands relation

/-- A value one step inside another one, with the role that it has there. -/
structure Part where
  step : Step
  role : Role
  value : Json

/-- A value that does not fit its role. -/
structure Misfit where
  /-- The way to the value. -/
  steps : List Step
  /-- What is wrong with it. -/
  defect : Defect
  /-- The value. -/
  value : Json

namespace Misfit

/-- The misfit seen from one level further up. -/
def under (step : Step) (misfit : Misfit) : Misfit := { misfit with steps := step :: misfit.steps }

/-- The report of a misfit in a value at a place. -/
def errorAt (place : String) (misfit : Misfit) : StatementError :=
  ⟨misfit.steps.foldl Step.extend place, misfit.defect, misfit.value⟩

end Misfit

namespace Role

/-- What is wrong with the keys of an object that is to be a statement.  A half of an implication has to
    stand with the other half and nothing else; any other key has to stand alone and to be known. -/
def keysDefect? (keys : List String) : Option Defect :=
  if "if" ∈ keys ∨ "then" ∈ keys then
    match keys.find? (fun key => key ≠ "if" ∧ key ≠ "then") with
    | some other => some (.keyBesideImplication other)
    | none =>
      if keys.isPerm ["if", "then"] then none
      else if "if" ∈ keys then some .conditionAlone
      else some .conclusionAlone
  else
    match keys with
    | [] => some .emptyObject
    | [key] => if (Keyword.ofText? key).isSome then none else some (.unknownKey key)
    | _ => some (.severalKeys keys)

/-- What is wrong with a value in a role, whatever may be wrong inside it. -/
def defect? : Role → Json → Option Defect
  | statement, .text _ => none
  | statement, .object fields => keysDefect? (fields.map (·.1))
  | statement, .list _ => some .strayList
  | statement, _ => some .notStatement
  | items _, .list _ => none
  | items connective, _ => some (.notItems connective)
  | operands relation, .list values =>
    if values.length = 2 then none else some (.operandCount relation values.length)
  | operands relation, _ => some (.notOperands relation)
  | operand, .text _ => none
  | operand, .number _ => none
  | operand, _ => some .notOperand

/-- The items of a list as parts in a role, the first of them at the given position. -/
def listParts (role : Role) (position : Nat) (values : List Json) : List Part :=
  (values.zipIdx position).map (fun (value, position) => ⟨.item position, role, value⟩)

/-- The parts of a value in a role, in the order of the document: fields in the order in which the keys
    are listed, so `if` before `then`, and the items of a list by position. -/
def parts : Role → Json → List Part
  | statement, .object fields =>
    Keyword.every.filterMap (fun keyword =>
      (fields.lookup keyword.text).map (fun value => ⟨.key keyword, keyword.role, value⟩))
  | items _, .list values => statement.listParts 0 values
  | operands _, .list values => operand.listParts 0 values
  | _, _ => []

/-- The part of a list is one of its values. -/
theorem mem_of_mem_listParts {role : Role} {position : Nat} {values : List Json} {part : Part}
    (h : part ∈ role.listParts position values) : part.value ∈ values := by
  obtain ⟨⟨value, index⟩, hmem, rfl⟩ := List.mem_map.mp h
  exact List.fst_mem_of_mem_zipIdx hmem

/-- A part is smaller than the whole. -/
theorem sizeOf_part_lt {role : Role} {raw : Json} {part : Part} (h : part ∈ role.parts raw) :
    sizeOf part.value < sizeOf raw := by
  have hlist : ∀ {values : List Json}, part.value ∈ values →
      sizeOf part.value < sizeOf (Json.list values) := by
    intro values hmem
    have hlt := List.sizeOf_lt_of_mem hmem
    rw [Json.list.sizeOf_spec]
    omega
  unfold parts at h
  split at h
  · obtain ⟨keyword, -, hpart⟩ := List.mem_filterMap.mp h
    obtain ⟨value, hvalue, rfl⟩ := Option.map_eq_some_iff.mp hpart
    obtain ⟨before, after, rfl, -⟩ := List.lookup_eq_some_iff.mp hvalue
    have hlt : sizeOf (keyword.text, value) < sizeOf (before ++ (keyword.text, value) :: after) :=
      List.sizeOf_lt_of_mem (by simp)
    rw [Prod.mk.sizeOf_spec] at hlt
    rw [Json.object.sizeOf_spec]
    show sizeOf value < _
    omega
  · exact hlist (mem_of_mem_listParts h)
  · exact hlist (mem_of_mem_listParts h)
  · exact absurd h List.not_mem_nil

/-- **All misfits in a value**, in the order of the document. -/
def misfits (role : Role) (raw : Json) : List Misfit :=
  match role.defect? raw with
  | some defect => [⟨[], defect, raw⟩]
  | none => (role.parts raw).attach.flatMap (fun ⟨part, _⟩ =>
      (misfits part.role part.value).map (Misfit.under part.step))
termination_by sizeOf raw
decreasing_by exact sizeOf_part_lt ‹_›

/-- The misfits in some parts, part after part. -/
def misfitsIn (parts : List Part) : List Misfit :=
  parts.flatMap (fun part => (misfits part.role part.value).map (Misfit.under part.step))

/-- A value that does not fit is the only misfit. -/
theorem misfits_of_defect {role : Role} {raw : Json} {defect : Defect}
    (h : role.defect? raw = some defect) : role.misfits raw = [⟨[], defect, raw⟩] := by
  rw [misfits, h]

/-- The misfits in a value that fits are those in its parts. -/
theorem misfits_of_fits {role : Role} {raw : Json} (h : role.defect? raw = none) :
    role.misfits raw = misfitsIn (role.parts raw) := by
  rw [misfits, h]
  show (role.parts raw).attach.flatMap _ = _
  rw [List.flatMap_subtype (fun _ _ => rfl), List.unattach_attach]
  rfl

/-- A listing does not stop at the first misfit, and does not go into one. -/
example :
    (statement.misfits (.object [("or", .list [.list [.null], .text "a",
      .object [("gt", .list [.null, .null])]])])).map
      (fun misfit => (Step.text misfit.steps, misfit.defect))
    = [("or[0]", .strayList), ("or[2].gt[0]", .notOperand), ("or[2].gt[1]", .notOperand)] := by
  cbv

/-! ## One equation for each shape

    These are the shapes of `Shape`, seen from the other side: what a reader of the shape tries one after
    the other is here a list of misfits in the same order. -/

/-- A key that stands for a whole statement may stand alone. -/
theorem keysDefect?_of_isWhole {keyword : Keyword} (h : keyword.isWhole = true) :
    keysDefect? [keyword.text] = none := by
  have hevery : ∀ listed ∈ Keyword.every, listed.isWhole = true → keysDefect? [listed.text] = none := by
    decide
  exact hevery keyword (Keyword.mem_every keyword) h

/-- The value of a key that stands alone is the one part. -/
theorem parts_single (keyword : Keyword) (value : Json) :
    statement.parts (.object [(keyword.text, value)]) = [⟨.key keyword, keyword.role, value⟩] := by
  rcases keyword with _ | connective | _ | _ | relation
  · rfl
  · cases connective <;> rfl
  · rfl
  · rfl
  · cases relation <;> rfl

/-- The misfits under a key that stands for a whole statement. -/
theorem misfits_single {keyword : Keyword} (h : keyword.isWhole = true) (value : Json) :
    statement.misfits (.object [(keyword.text, value)])
      = (keyword.role.misfits value).map (Misfit.under (.key keyword)) := by
  have hfits : statement.defect? (.object [(keyword.text, value)]) = none := keysDefect?_of_isWhole h
  rw [misfits_of_fits hfits, parts_single]
  exact List.append_nil _

/-- The misfits of an implication are those of its condition, then those of its conclusion. -/
theorem misfits_implication {fields : List (String × Json)} {a b : Json}
    (halves : fields.Perm [(Keyword.condition.text, a), (Keyword.conclusion.text, b)]) :
    statement.misfits (.object fields)
      = (statement.misfits a).map (Misfit.under (.key .condition))
        ++ (statement.misfits b).map (Misfit.under (.key .conclusion)) := by
  have hfits : statement.defect? (.object fields) = none := by
    rcases List.perm_pair.mp halves with rfl | rfl <;> rfl
  -- the condition is the first part in both orders of the fields
  have hparts : statement.parts (.object fields)
      = [⟨.key .condition, .statement, a⟩, ⟨.key .conclusion, .statement, b⟩] := by
    rcases List.perm_pair.mp halves with rfl | rfl <;> rfl
  rw [misfits_of_fits hfits, hparts]
  show _ ++ (_ ++ []) = _
  rw [List.append_nil]

/-- The halves of an implication by their keys. -/
theorem isHalf_iff {key : String} : Statement.isHalf key = true ↔ key = "if" ∨ key = "then" := by
  rw [Statement.isHalf, Bool.or_eq_true, beq_iff_eq, beq_iff_eq]
  rfl

/-- A single key that is neither known for a whole statement nor half of an implication is not known. -/
theorem ofText?_eq_none_of_misshapen {key : String} (h : ¬ Statement.AreStatementKeys [key])
    (hhalf : ¬ (key = "if" ∨ key = "then")) : Keyword.ofText? key = none := by
  cases hkey : Keyword.ofText? key with
  | none => rfl
  | some keyword =>
    obtain rfl := Keyword.ofText?_eq_some_iff.mp hkey
    cases hwhole : keyword.isWhole with
    | true => exact absurd (Or.inl ⟨keyword, hwhole, rfl⟩) h
    | false =>
      cases keyword with
      | condition => exact absurd (Or.inl rfl) hhalf
      | conclusion => exact absurd (Or.inr rfl) hhalf
      | _ => cases hwhole

/-- Keys that no statement has are a defect, the one that the reader names. -/
theorem keysDefect?_of_misshapen {fields : List (String × Json)}
    (h : ¬ Statement.AreStatementKeys (fields.map (·.1))) :
    keysDefect? (fields.map (·.1)) = some (Statement.fieldsDefect fields) := by
  unfold keysDefect? Statement.fieldsDefect
  generalize fields.map (·.1) = keys at h
  have hany : keys.any Statement.isHalf = true ↔ "if" ∈ keys ∨ "then" ∈ keys := by
    simp only [List.any_eq_true, isHalf_iff, and_or_left, exists_or, exists_eq_right]
  have hother : (fun key => !Statement.isHalf key) = (fun key => decide (key ≠ "if" ∧ key ≠ "then")) := by
    funext key
    rw [Bool.eq_iff_iff, Bool.not_eq_true', ← Bool.not_eq_true, isHalf_iff, decide_eq_true_iff, not_or]
  -- with a half of an implication the other keys are at fault, without one the number of keys
  by_cases hhalf : "if" ∈ keys ∨ "then" ∈ keys
  · rw [if_pos hhalf, if_pos (hany.mpr hhalf), hother]
    cases keys.find? (fun key => decide (key ≠ "if" ∧ key ≠ "then")) with
    | some other => rfl
    | none =>
      have hperm : ¬ keys.isPerm ["if", "then"] = true := fun hperm =>
        h (Or.inr (List.isPerm_iff.mp hperm))
      by_cases hcondition : "if" ∈ keys
      · simp [hperm, hcondition, Keyword.text]
      · simp [hperm, hcondition, Keyword.text]
  · rw [if_neg hhalf, if_neg (mt hany.mp hhalf)]
    match keys, h, hhalf with
    | [], _, _ => rfl
    | [key], h, hhalf =>
      have hunknown : Keyword.ofText? key = none :=
        ofText?_eq_none_of_misshapen h (by simpa [eq_comm] using hhalf)
      show (if (Keyword.ofText? key).isSome then none else some (Defect.unknownKey key)) = _
      rw [hunknown]
      rfl
    | _ :: _ :: _, _, _ => rfl

/-- An object with the wrong keys is the only misfit, whatever is in it. -/
theorem misfits_misshapen {fields : List (String × Json)}
    (h : ¬ Statement.AreStatementKeys (fields.map (·.1))) :
    statement.misfits (.object fields) = [⟨[], Statement.fieldsDefect fields, .object fields⟩] :=
  misfits_of_defect (keysDefect?_of_misshapen h)

/-- Only a list fits as items. -/
theorem misfits_items_of_not_list (connective : Connective) {value : Json}
    (h : ∀ items, value ≠ .list items) :
    (items connective).misfits value = [⟨[], .notItems connective, value⟩] := by
  apply misfits_of_defect
  cases value with
  | list values => exact absurd rfl (h values)
  | _ => rfl

/-- Only a list of two fits as operands. -/
theorem misfits_operands_of_not_list (relation : Comparison) {value : Json}
    (h : ∀ items, value ≠ .list items) :
    (operands relation).misfits value = [⟨[], .notOperands relation, value⟩] := by
  apply misfits_of_defect
  cases value with
  | list values => exact absurd rfl (h values)
  | _ => rfl

/-- A list of more or fewer than two does not fit as operands. -/
theorem misfits_operands_of_length_ne (relation : Comparison) {values : List Json}
    (h : values.length ≠ 2) :
    (operands relation).misfits (.list values)
      = [⟨[], .operandCount relation values.length, .list values⟩] :=
  misfits_of_defect (if_neg h)

/-- The misfits of two operands, the left one first. -/
theorem misfits_operands_pair (relation : Comparison) (a b : Json) :
    (operands relation).misfits (.list [a, b])
      = (operand.misfits a).map (Misfit.under (.item 0))
        ++ (operand.misfits b).map (Misfit.under (.item 1)) := by
  have hfits : (operands relation).defect? (.list [a, b]) = none := rfl
  rw [misfits_of_fits hfits]
  show _ ++ (_ ++ []) = _
  rw [List.append_nil]

/-- The misfits of a list are those of its first item, then those of the rest. -/
theorem misfitsIn_listParts_cons (role : Role) (position : Nat) (value : Json) (rest : List Json) :
    misfitsIn (role.listParts position (value :: rest))
      = (role.misfits value).map (Misfit.under (.item position))
        ++ misfitsIn (role.listParts (position + 1) rest) := rfl

/-- There is no misfit in a list if there is none in any item. -/
theorem misfitsIn_listParts_eq_nil_iff {role : Role} {position : Nat} {values : List Json} :
    misfitsIn (role.listParts position values) = [] ↔ ∀ value ∈ values, role.misfits value = [] := by
  induction values generalizing position with
  | nil => exact ⟨fun _ _ h => absurd h List.not_mem_nil, fun _ => rfl⟩
  | cons value rest ih =>
    rw [misfitsIn_listParts_cons, List.append_eq_nil_iff, List.map_eq_nil_iff, ih, List.forall_mem_cons]

/-- The first misfit in a list is the first one in the first item that has any. -/
theorem head?_misfitsIn_listParts {role : Role} {position : Nat} {values : List Json} {misfit : Misfit} :
    (misfitsIn (role.listParts position values)).head? = some misfit ↔
      ∃ before value after first rest, values = before ++ value :: after ∧
        (∀ earlier ∈ before, role.misfits earlier = []) ∧ role.misfits value = first :: rest ∧
        first.under (.item (position + before.length)) = misfit := by
  induction values generalizing position with
  | nil => simp [listParts, misfitsIn]
  | cons value values ih =>
    rw [misfitsIn_listParts_cons]
    cases hvalue : role.misfits value with
    | nil =>
      -- nothing here, so the item is one of those before
      rw [List.map_nil, List.nil_append, ih]
      constructor
      · rintro ⟨before, bad, after, first, rest, rfl, hbefore, hbad, rfl⟩
        refine ⟨value :: before, bad, after, first, rest, rfl,
          List.forall_mem_cons.mpr ⟨hvalue, hbefore⟩, hbad, ?_⟩
        rw [List.length_cons, Nat.add_right_comm, Nat.add_assoc]
      · rintro ⟨before, bad, after, first, rest, heq, hbefore, hbad, rfl⟩
        cases before with
        | nil =>
          obtain ⟨rfl, -⟩ := List.cons.inj heq
          rw [hvalue] at hbad
          cases hbad
        | cons earlier before =>
          obtain ⟨-, rfl⟩ := List.cons.inj heq
          refine ⟨before, bad, after, first, rest, rfl, (List.forall_mem_cons.mp hbefore).2, hbad, ?_⟩
          rw [List.length_cons, Nat.add_right_comm, Nat.add_assoc]
    | cons here others =>
      rw [List.map_cons, List.cons_append, List.head?_cons, Option.some.injEq]
      constructor
      · rintro rfl
        exact ⟨[], value, values, here, others, rfl, by simp, hvalue, rfl⟩
      · rintro ⟨before, bad, after, first, rest, heq, hbefore, hbad, rfl⟩
        cases before with
        | nil =>
          obtain ⟨rfl, -⟩ := List.cons.inj heq
          rw [hvalue] at hbad
          obtain ⟨rfl, -⟩ := List.cons.inj hbad
          rfl
        | cons earlier before =>
          -- an item before the first one with a misfit has none
          obtain ⟨rfl, -⟩ := List.cons.inj heq
          rw [hbefore value List.mem_cons_self] at hvalue
          cases hvalue

end Role

/-! ## Reading comes to the first misfit -/

namespace Misfit

/-- The first report at a place about some misfits. -/
def firstAt (place : String) (misfits : List Misfit) : Option StatementError :=
  misfits.head?.map (errorAt place)

/-- The first report about two lists is that about the first one, if there is any. -/
theorem firstAt_append (place : String) (misfits others : List Misfit) :
    firstAt place (misfits ++ others) = (firstAt place misfits).or (firstAt place others) := by
  rw [firstAt, List.head?_append]
  cases misfits <;> rfl

/-- Misfits seen from further up are reported as they are at the place further down. -/
theorem firstAt_map_under (place : String) (step : Step) (misfits : List Misfit) :
    firstAt place (misfits.map (under step)) = firstAt (Step.extend place step) misfits := by
  rw [firstAt, List.head?_map, Option.map_map]
  rfl

end Misfit

namespace Statement

open Misfit (firstAt firstAt_append firstAt_map_under)

/-- An operand is refused with its first misfit; it has at most one. -/
theorem refusal?_readAt_operand (place : String) (raw : Json) :
    refusal? (Operand.readAt place raw) = firstAt place (Role.operand.misfits raw) := by
  cases raw with
  | text path => rw [Role.misfits_of_fits rfl]; rfl
  | number value => rw [Role.misfits_of_fits rfl]; rfl
  | _ => rw [Role.misfits_of_defect rfl]; rfl

/-- A comparison is refused with the first misfit of its operands. -/
theorem refusal?_readComparisonAt (place : String) (relation : Comparison) (raw : Json) :
    refusal? (readComparisonAt place relation raw)
      = firstAt place ((Role.operands relation).misfits raw) := by
  by_cases hlist : ∃ values, raw = .list values
  · obtain ⟨values, rfl⟩ := hlist
    by_cases hlength : values.length = 2
    · obtain ⟨a, b, rfl⟩ := List.length_eq_two.mp hlength
      rw [readComparisonAt_pair, refusal?_bind_bind, refusal?_readAt_operand, refusal?_readAt_operand,
        Role.misfits_operands_pair, firstAt_append, firstAt_map_under, firstAt_map_under]
    · rw [readComparisonAt_of_length_ne place relation hlength,
        Role.misfits_operands_of_length_ne relation hlength]
      rfl
  · have hnot : ∀ values, raw ≠ .list values := fun values heq => hlist ⟨values, heq⟩
    rw [readComparisonAt_of_not_list place relation hnot, Role.misfits_operands_of_not_list relation hnot]
    rfl

/-- The items of a list are read one after another, and the first that is refused counts. -/
theorem refusal?_readItemsAt {values : List Json}
    (ih : ∀ value ∈ values, ∀ place,
      refusal? (readAt place value) = firstAt place (Role.statement.misfits value))
    (place : String) (position : Nat) :
    refusal? (readItemsAt place position values)
      = firstAt place (Role.misfitsIn (Role.statement.listParts position values)) := by
  induction values generalizing position with
  | nil => rfl
  | cons value rest ihrest =>
    obtain ⟨hvalue, hrest⟩ := List.forall_mem_cons.mp ih
    rw [readItemsAt, refusal?_bind_bind, hvalue, ihrest hrest, Role.misfitsIn_listParts_cons,
      firstAt_append, firstAt_map_under]

/-- **Reading comes to the first misfit.**  By induction over the shapes: the reader of each shape tries
    the parts in the order in which their misfits are listed. -/
theorem refusal?_readAt (raw : Json) : ∀ place,
    refusal? (readAt place raw) = firstAt place (Role.statement.misfits raw) := by
  -- the place goes on by one step from a shape to its parts
  induction raw using raw_induction with
  | null | bool _ | number _ | list _ =>
    intro place
    rw [Role.misfits_of_defect rfl]
    rfl
  | text fact =>
    intro place
    rw [Role.misfits_of_fits rfl]
    rfl
  | negation value ih =>
    intro place
    rw [readAt_negation, refusal?_map, ih, Role.misfits_single rfl, firstAt_map_under]
    rfl
  | group connective items ih =>
    intro place
    rw [readAt_group, refusal?_map, refusal?_readItemsAt ih, Role.misfits_single rfl, firstAt_map_under,
      Keyword.role, Role.misfits_of_fits rfl]
    rfl
  | groupOfOther connective value notList =>
    intro place
    rw [readAt_group_of_not_list place connective notList, Role.misfits_single rfl, firstAt_map_under,
      Keyword.role, Role.misfits_items_of_not_list connective notList]
    rfl
  | comparison relation value =>
    intro place
    rw [readAt_comparison, refusal?_readComparisonAt, Role.misfits_single rfl, firstAt_map_under]
    rfl
  | implication fields a b halves iha ihb =>
    intro place
    rw [readAt_implication place halves, readHalvesAt, refusal?_bind_bind, iha, ihb,
      Role.misfits_implication halves, firstAt_append, firstAt_map_under, firstAt_map_under]
  | misshapen fields keys =>
    intro place
    rw [readAt_misshapen place keys, Role.misfits_misshapen keys]
    rfl

/-- A raw statement is refused with the head of its misfits. -/
theorem read_eq_error_iff_head {raw : Json} {error : StatementError} :
    read raw = .error error ↔
      ∃ first rest, Role.statement.misfits raw = first :: rest ∧ error = first.errorAt "" := by
  rw [← refusal?_eq_some_iff, read, refusal?_readAt, firstAt, Option.map_eq_some_iff]
  simp only [List.head?_eq_some_iff]
  constructor
  · rintro ⟨first, ⟨rest, hmisfits⟩, rfl⟩
    exact ⟨first, rest, hmisfits, rfl⟩
  · rintro ⟨first, rest, hmisfits, rfl⟩
    exact ⟨first, ⟨rest, hmisfits⟩, rfl⟩

/-- A raw statement is read if there is no head. -/
theorem exists_read_eq_ok_iff {raw : Json} :
    (∃ statement, read raw = .ok statement) ↔ Role.statement.misfits raw = [] := by
  rw [← refusal?_eq_none_iff, read, refusal?_readAt, firstAt, Option.map_eq_none_iff,
    List.head?_eq_none_iff]

end Statement

namespace Predicate

/-- The statements of a predicate are refused as the items of a list are. -/
theorem refusal?_ofRawStatements (raws : List Json) :
    refusal? (ofRawStatements raws)
      = Misfit.firstAt "" (Role.misfitsIn (Role.statement.listParts 0 raws)) := by
  rw [ofRawStatements, refusal?_map,
    Statement.refusal?_readItemsAt (fun raw _ => Statement.refusal?_readAt raw)]

/-- A predicate is made if none of its statements has a misfit. -/
theorem exists_ofRawStatements_eq_ok_iff {raws : List Json} :
    (∃ predicate, ofRawStatements raws = .ok predicate) ↔
      ∀ raw ∈ raws, Role.statement.misfits raw = [] := by
  rw [← refusal?_eq_none_iff, refusal?_ofRawStatements, Misfit.firstAt, Option.map_eq_none_iff,
    List.head?_eq_none_iff, Role.misfitsIn_listParts_eq_nil_iff]

/-- Otherwise the first statement with a misfit is at fault, and those before it have none. -/
theorem ofRawStatements_eq_error_iff {raws : List Json} {error : StatementError} :
    ofRawStatements raws = .error error ↔
      ∃ before raw after first rest, raws = before ++ raw :: after ∧
        (∀ earlier ∈ before, Role.statement.misfits earlier = []) ∧
        Role.statement.misfits raw = first :: rest ∧
        error = first.errorAt (Step.extend "" (.item before.length)) := by
  rw [← refusal?_eq_some_iff, refusal?_ofRawStatements, Misfit.firstAt, Option.map_eq_some_iff]
  simp only [Role.head?_misfitsIn_listParts, Nat.zero_add]
  constructor
  · rintro ⟨_, ⟨before, raw, after, first, rest, hraws, hbefore, hraw, rfl⟩, rfl⟩
    exact ⟨before, raw, after, first, rest, hraws, hbefore, hraw, rfl⟩
  · rintro ⟨before, raw, after, first, rest, hraws, hbefore, hraw, rfl⟩
    exact ⟨_, ⟨before, raw, after, first, rest, hraws, hbefore, hraw, rfl⟩, rfl⟩

end Predicate

/-- The place of a report goes on from the place of the value. -/
theorem Misfit.exists_path_errorAt {place : String} (h : place ≠ "") (misfit : Misfit) :
    ∃ inside, (misfit.errorAt place).path = place ++ inside := by
  refine ⟨String.ofList (misfit.steps.flatMap Step.added), String.toList_inj.mp ?_⟩
  rw [String.toList_append, String.toList_ofList]
  exact Step.toList_foldl_extend h misfit.steps

/-- **The first misfit is reported.**

    A raw statement is read exactly if it has no misfit, and is refused exactly with the first misfit in
    the order of the document.  A sequence of raw statements makes a predicate exactly if none of them has
    a misfit; otherwise the first one that has any is at fault, whatever comes after it, and its first
    misfit is reported, at a place that begins with the position of that statement. -/
theorem first_misfit_is_reported :
    (∀ raw, (∃ statement, Statement.read raw = .ok statement) ↔ Role.statement.misfits raw = []) ∧
    (∀ raw error, Statement.read raw = .error error ↔
      ∃ first rest, Role.statement.misfits raw = first :: rest ∧ error = first.errorAt "") ∧
    (∀ raws, (∃ predicate, Predicate.ofRawStatements raws = .ok predicate) ↔
      ∀ raw ∈ raws, Role.statement.misfits raw = []) ∧
    (∀ raws error, Predicate.ofRawStatements raws = .error error ↔
      ∃ before raw after first rest, raws = before ++ raw :: after ∧
        (∀ earlier ∈ before, Role.statement.misfits earlier = []) ∧
        Role.statement.misfits raw = first :: rest ∧
        error = first.errorAt ("[" ++ toString before.length ++ "]") ∧
        ∃ inside, error.path = "[" ++ toString before.length ++ "]" ++ inside) := by
  refine ⟨fun _ => Statement.exists_read_eq_ok_iff, fun _ _ => Statement.read_eq_error_iff_head,
    fun _ => Predicate.exists_ofRawStatements_eq_ok_iff, fun raws error => ?_⟩
  have hplace : ∀ position, Step.extend "" (.item position) = "[" ++ toString position ++ "]" := by
    intro position
    rw [Step.extend, String.empty_append]
  rw [Predicate.ofRawStatements_eq_error_iff]
  simp only [hplace]
  constructor
  · rintro ⟨before, raw, after, first, rest, hraws, hbefore, hraw, rfl⟩
    refine ⟨before, raw, after, first, rest, hraws, hbefore, hraw, rfl, ?_⟩
    exact first.exists_path_errorAt (by rw [← hplace]; exact Step.extend_ne_empty "" _)
  · rintro ⟨before, raw, after, first, rest, hraws, hbefore, hraw, herror, -⟩
    exact ⟨before, raw, after, first, rest, hraws, hbefore, hraw, herror⟩

end RollConditions
