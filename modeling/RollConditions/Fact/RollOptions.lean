/-
  Roll options: the facts that belong to one roll.

  They are kept in strictly ascending order, so two collections with the same members are the same
  collection, whatever was put in first, and what is shown of them is always in one order.
-/
import RollConditions.Fact.Set

namespace RollConditions

/-- A set of facts in ascending order of their code points. -/
structure RollOptions where
  /-- The facts, each once. -/
  sorted : List String
  /-- The order of the facts. -/
  ascending : sorted.Pairwise (· < ·)
deriving DecidableEq

namespace RollOptions

/-- A fact put in its place in an ascending list, unless it is there. -/
def insertAscending (fact : String) : List String → List String
  | [] => [fact]
  | other :: rest =>
    if fact < other then fact :: other :: rest
    else if fact = other then other :: rest
    else other :: insertAscending fact rest

/-- The facts after an insertion are the new one and the old ones. -/
theorem mem_insertAscending {fact other : String} {facts : List String} :
    other ∈ insertAscending fact facts ↔ other = fact ∨ other ∈ facts := by
  induction facts with
  | nil => simp [insertAscending]
  | cons head rest ih =>
    simp only [insertAscending]
    split
    · simp
    · split
      · rename_i heq
        subst heq
        simp
      · rw [List.mem_cons, ih, List.mem_cons]
        exact ⟨fun h => by rcases h with h | h | h <;> simp [h],
          fun h => by rcases h with h | h | h <;> simp [h]⟩

/-- An insertion keeps the order. -/
theorem pairwise_insertAscending (fact : String) {facts : List String}
    (h : facts.Pairwise (· < ·)) : (insertAscending fact facts).Pairwise (· < ·) := by
  induction facts with
  | nil => simp [insertAscending]
  | cons head rest ih =>
    obtain ⟨hhead, hrest⟩ := List.pairwise_cons.mp h
    simp only [insertAscending]
    split
    · -- the new fact comes before all others
      rename_i hlt
      refine List.pairwise_cons.mpr ⟨fun other hother => ?_, h⟩
      rcases List.mem_cons.mp hother with hother | hother
      · exact hother ▸ hlt
      · exact String.lt_trans hlt (hhead other hother)
    · split
      · exact h
      · -- the new fact comes after the first one
        rename_i hnlt hne
        have hgt : head < fact := ((Std.lt_trichotomy fact head).resolve_left hnlt).resolve_left hne
        refine List.pairwise_cons.mpr ⟨fun other hother => ?_, ih hrest⟩
        rcases mem_insertAscending.mp hother with hother | hother
        · exact hother ▸ hgt
        · exact hhead other hother

/-- No facts. -/
def empty : RollOptions := ⟨[], List.Pairwise.nil⟩

instance : Inhabited RollOptions := ⟨empty⟩

/-- Whether a fact is among the options. -/
def contains (options : RollOptions) (fact : String) : Bool := options.sorted.contains fact

/-- The options with one more fact. -/
def insert (options : RollOptions) (fact : String) : RollOptions :=
  ⟨insertAscending fact options.sorted, pairwise_insertAscending fact options.ascending⟩

/-- The options with one more fact, and whether the fact is new. -/
def insertIsNew (options : RollOptions) (fact : String) : RollOptions × Bool :=
  (options.insert fact, !options.contains fact)

/-- The options with every fact of a list. -/
def extend (options : RollOptions) (facts : List String) : RollOptions := facts.foldl insert options

/-- The facts of a list. -/
def ofList (facts : List String) : RollOptions := empty.extend facts

/-- The facts after an extension are those of the list and the old ones. -/
theorem mem_sorted_extend {options : RollOptions} {facts : List String} {fact : String} :
    fact ∈ (options.extend facts).sorted ↔ fact ∈ options.sorted ∨ fact ∈ facts := by
  unfold extend
  induction facts generalizing options with
  | nil => simp
  | cons head rest ih =>
    have hinsert : fact ∈ (options.insert head).sorted ↔ fact = head ∨ fact ∈ options.sorted :=
      mem_insertAscending
    rw [List.foldl_cons, ih, hinsert, List.mem_cons, or_comm (a := fact = head), or_assoc]

/-- The facts collected from a list are its entries. -/
theorem mem_sorted_ofList {facts : List String} {fact : String} :
    fact ∈ (ofList facts).sorted ↔ fact ∈ facts := by
  rw [ofList, mem_sorted_extend]
  simp [empty]

/-- The number of facts. -/
def size (options : RollOptions) : Nat := options.sorted.length

/-- Whether there is no fact. -/
def isEmpty (options : RollOptions) : Bool := options.sorted.isEmpty

end RollOptions

instance : FactSet RollOptions where
  contains options fact := options.contains fact
  facts options := options.sorted

end RollConditions
