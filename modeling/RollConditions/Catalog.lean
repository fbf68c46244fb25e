/-
  Values under names, kept in ascending order of the names.

  Names are compared by code points, which is also the order of their UTF-8 bytes.  The fields of a
  JSON object that was read, the named conditions of a configuration and its named fact sets are all
  kept this way: no name twice, and what is inserted last under a name is what the name stands for.
  `insertNamed` works on the bare list, which is what a nested type such as JSON can hold; a `Catalog`
  carries the order with it.
-/

namespace RollConditions

universe u

/-- The names of a list of named values stand in strictly ascending order. -/
def Ascending {α : Type u} (entries : List (String × α)) : Prop :=
  entries.Pairwise (fun a b => a.1 < b.1)

/-- A value put under a name: in its place in the order, or instead of what was there. -/
def insertNamed {α : Type u} (name : String) (value : α) : List (String × α) → List (String × α)
  | [] => [(name, value)]
  | (other, old) :: rest =>
    if name < other then (name, value) :: (other, old) :: rest
    else if name = other then (name, value) :: rest
    else (other, old) :: insertNamed name value rest

/-- Insertion brings in its own name and no other. -/
theorem name_of_mem_insertNamed {α : Type u} {name : String} {value : α}
    {entries : List (String × α)} {entry : String × α}
    (h : entry ∈ insertNamed name value entries) : entry.1 = name ∨ entry ∈ entries := by
  induction entries with
  | nil => simp_all [insertNamed]
  | cons head rest ih =>
    obtain ⟨other, old⟩ := head
    simp only [insertNamed] at h
    split at h
    · rcases List.mem_cons.mp h with h | h
      · exact Or.inl (h ▸ rfl)
      · exact Or.inr h
    · split at h
      · rcases List.mem_cons.mp h with h | h
        · exact Or.inl (h ▸ rfl)
        · exact Or.inr (List.mem_cons_of_mem _ h)
      · rcases List.mem_cons.mp h with h | h
        · exact Or.inr (h ▸ List.mem_cons_self)
        · rcases ih h with h | h
          · exact Or.inl h
          · exact Or.inr (List.mem_cons_of_mem _ h)

/-- Insertion keeps the names in strictly ascending order. -/
theorem Ascending.insertNamed {α : Type u} {entries : List (String × α)} (h : Ascending entries)
    (name : String) (value : α) : Ascending (insertNamed name value entries) := by
  induction entries with
  | nil => simp [RollConditions.insertNamed, Ascending]
  | cons head rest ih =>
    obtain ⟨other, old⟩ := head
    obtain ⟨hhead, hrest⟩ := List.pairwise_cons.mp h
    simp only [RollConditions.insertNamed]
    split
    · -- the new name comes before every name of the list
      rename_i hlt
      refine List.pairwise_cons.mpr ⟨fun entry hentry => ?_, h⟩
      rcases List.mem_cons.mp hentry with hentry | hentry
      · subst hentry
        exact hlt
      · exact String.lt_trans hlt (hhead entry hentry)
    · split
      · rename_i hne heq
        subst heq
        exact List.pairwise_cons.mpr ⟨hhead, hrest⟩
      · -- the new name comes after the first one
        rename_i hnlt hne
        have hgt : other < name :=
          ((Std.lt_trichotomy name other).resolve_left hnlt).resolve_left hne
        refine List.pairwise_cons.mpr ⟨fun entry hentry => ?_, ih hrest⟩
        rcases name_of_mem_insertNamed hentry with hname | hmem
        · exact hname ▸ hgt
        · exact hhead entry hmem

/-- Named values in ascending order of their names, no name twice. -/
structure Catalog (α : Type u) where
  /-- The names with their values. -/
  entries : List (String × α)
  /-- The order of the names. -/
  ascending : Ascending entries

namespace Catalog

variable {α : Type u}

/-- Nothing under any name. -/
def empty : Catalog α := ⟨[], List.Pairwise.nil⟩

instance : Inhabited (Catalog α) := ⟨empty⟩

/-- A value put under a name, instead of what was there. -/
def insert (catalog : Catalog α) (name : String) (value : α) : Catalog α :=
  ⟨insertNamed name value catalog.entries, catalog.ascending.insertNamed name value⟩

/-- The values put under their names one after another. -/
def ofList (entries : List (String × α)) : Catalog α :=
  entries.foldl (fun catalog entry => catalog.insert entry.1 entry.2) empty

/-- What a name stands for. -/
def get? (catalog : Catalog α) (name : String) : Option α := catalog.entries.lookup name

/-- All names, ascending. -/
def names (catalog : Catalog α) : List String := catalog.entries.map (·.1)

end Catalog

end RollConditions
