/-!
# Tables

A table maps names to values and lists its entries by ascending name, so that equal tables have equal entries and every walk over a table is in one order. `insert` keeps the order; of two equal names the later value stays.
-/

namespace GuardedPlan

/-- Adds an entry to ascending entries, replacing an equal name. -/
def insertEntry {α : Type} (name : String) (value : α) : List (String × α) → List (String × α)
  | [] => [(name, value)]
  | (other, kept) :: rest =>
    if name = other then (name, value) :: rest
    else if name < other then (name, value) :: (other, kept) :: rest
    else (other, kept) :: insertEntry name value rest

def Ascending {α : Type} (entries : List (String × α)) : Prop :=
  entries.Pairwise fun a b => a.1 < b.1

theorem mem_insertEntry {α : Type} {name : String} {value : α} {entries : List (String × α)} {entry : String × α}
    (h : entry ∈ insertEntry name value entries) : entry = (name, value) ∨ entry ∈ entries := by
  induction entries with
  | nil => simpa [insertEntry] using h
  | cons head rest ih =>
    obtain ⟨other, kept⟩ := head
    simp only [insertEntry] at h
    split at h
    · rcases List.mem_cons.1 h with h | h
      · exact .inl h
      · exact .inr (List.mem_cons_of_mem _ h)
    · split at h
      · rcases List.mem_cons.1 h with h | h
        · exact .inl h
        · exact .inr h
      · rcases List.mem_cons.1 h with h | h
        · exact .inr (h ▸ List.mem_cons_self)
        · rcases ih h with h | h
          · exact .inl h
          · exact .inr (List.mem_cons_of_mem _ h)

theorem Ascending.insertEntry {α : Type} {entries : List (String × α)} (h : Ascending entries) (name : String)
    (value : α) : Ascending (insertEntry name value entries) := by
  induction entries with
  | nil => exact List.pairwise_singleton _ _
  | cons head rest ih =>
    obtain ⟨other, kept⟩ := head
    have ⟨above, sorted⟩ := List.pairwise_cons.1 h
    simp only [GuardedPlan.insertEntry]
    split
    · rename_i same
      subst same
      exact List.pairwise_cons.2 ⟨above, sorted⟩
    · rename_i different
      split
      · rename_i before
        refine List.pairwise_cons.2 ⟨fun entry member => ?_, h⟩
        rcases List.mem_cons.1 member with rfl | member
        · exact before
        · exact String.lt_trans before (above entry member)
      · rename_i after
        refine List.pairwise_cons.2 ⟨fun entry member => ?_, ih sorted⟩
        rcases mem_insertEntry member with rfl | member
        · exact Std.lt_of_le_of_ne (String.not_lt.1 after) (Ne.symm different)
        · exact above entry member

theorem lookup_insertEntry {α : Type} (key name : String) (value : α) (entries : List (String × α)) :
    (insertEntry name value entries).lookup key = if key = name then some value else entries.lookup key := by
  induction entries with
  | nil =>
    by_cases hkey : key = name
    · simp [insertEntry, hkey]
    · simp [insertEntry, hkey]
  | cons entry rest ih =>
    obtain ⟨other, kept⟩ := entry
    rw [insertEntry]
    by_cases hkey : key = name
    · subst hkey
      split
      · simp
      · split
        · simp
        next hother _ => simp [List.lookup_cons, beq_false_of_ne hother, ih]
    · rw [if_neg hkey] at ih ⊢
      split
      next hname => simp [List.lookup_cons, ← hname, beq_false_of_ne hkey]
      · split
        · simp [List.lookup_cons, beq_false_of_ne hkey]
        · rw [List.lookup_cons, List.lookup_cons, ih]

/-- A map from names to values. -/
structure Table (α : Type) where
  entries : List (String × α)
  ascending : Ascending entries
deriving DecidableEq, Repr

namespace Table

/-- The table without entries. -/
def empty {α : Type} : Table α :=
  ⟨[], List.Pairwise.nil⟩

instance {α : Type} : Inhabited (Table α) := ⟨empty⟩

/-- Adds an entry, replacing one of the same name. -/
def insert {α : Type} (table : Table α) (name : String) (value : α) : Table α :=
  ⟨insertEntry name value table.entries, table.ascending.insertEntry name value⟩

/-- The table of some entries, the last of equal names winning. -/
def ofList {α : Type} (entries : List (String × α)) : Table α :=
  entries.foldl (fun table entry => table.insert entry.1 entry.2) empty

/-- The value of a name. -/
def get? {α : Type} (table : Table α) (name : String) : Option α :=
  table.entries.lookup name

theorem get_insert {α : Type} (table : Table α) (key name : String) (value : α) :
    (table.insert name value).get? key = if key = name then some value else table.get? key :=
  lookup_insertEntry key name value table.entries

/-- Changes the value of a name, if there is one. -/
def modify {α : Type} (table : Table α) (name : String) (change : α → α) : Table α :=
  match table.get? name with
  | none => table
  | some value => table.insert name (change value)

theorem get?_modify {α : Type} (table : Table α) (key name : String) (change : α → α) :
    (table.modify name change).get? key = if key = name then (table.get? name).map change else table.get? key := by
  rw [modify]
  cases hvalue : table.get? name with
  | none =>
    by_cases hkey : key = name
    · simp [hkey, hvalue]
    · simp [hkey]
  | some value => exact get_insert table key name (change value)

/-- Removes an entry. -/
def erase {α : Type} (table : Table α) (name : String) : Table α :=
  ⟨table.entries.filter fun entry => entry.1 ≠ name, table.ascending.filter _⟩

/-- The names in order. -/
def names {α : Type} (table : Table α) : List String :=
  table.entries.map Prod.fst

/-- The table with every value changed. -/
def map {α β : Type} (table : Table α) (change : α → β) : Table β :=
  ⟨table.entries.map fun entry => (entry.1, change entry.2), by
    have sorted := table.ascending
    unfold Ascending at sorted ⊢
    exact List.pairwise_map.2 sorted⟩

end Table

end GuardedPlan
