import GuardedPlan.Table

/-!
# Looking into tables

What a name stands for in a table. The names of a table ascend and so none of them repeats: a name stands for a value exactly if the two are an entry. A table that was made from a list has its names, and of several entries of one name the last.
-/

namespace GuardedPlan

variable {α : Type}

theorem Ascending.lookup_eq_some_iff {entries : List (String × α)} (h : Ascending entries) {name : String} {value : α} :
    entries.lookup name = some value ↔ (name, value) ∈ entries := by
  constructor
  · intro hlookup
    obtain ⟨before, after, rfl, -⟩ := List.lookup_eq_some_iff.1 hlookup
    simp
  · intro hmem
    obtain ⟨before, after, rfl⟩ := List.append_of_mem hmem
    refine List.lookup_eq_some_iff.2 ⟨before, after, rfl, fun entry hentry => ?_⟩
    -- an entry of the same name would have to stand before itself
    have hbefore : entry.1 < name := (List.pairwise_append.1 h).2.2 entry hentry _ List.mem_cons_self
    simpa using (Std.ne_of_lt hbefore).symm

namespace Table

theorem get?_eq_some_iff {table : Table α} {name : String} {value : α} :
    table.get? name = some value ↔ (name, value) ∈ table.entries :=
  table.ascending.lookup_eq_some_iff

theorem get?_foldl_insert (entries : List (String × α)) (table : Table α) (name : String) :
    (entries.foldl (fun table entry => table.insert entry.1 entry.2) table).get? name =
      (entries.reverse.lookup name).or (table.get? name) := by
  induction entries generalizing table with
  | nil => rfl
  | cons entry rest ih =>
    obtain ⟨own, value⟩ := entry
    rw [List.foldl_cons, ih, get_insert, List.reverse_cons, List.lookup_append, Option.or_assoc]
    congr 1
    by_cases hname : name = own
    · simp [hname]
    · simp [hname, List.lookup_cons, beq_false_of_ne hname]

/-- The last entry of a name is the one that stays. -/
theorem get?_ofList (entries : List (String × α)) (name : String) :
    (ofList entries).get? name = entries.reverse.lookup name := by
  have hempty : (empty : Table α).get? name = none := rfl
  rw [ofList, get?_foldl_insert, hempty, Option.or_none]

/-- A change in a table that has a value for each of some names. -/
theorem get?_modify_of_forall {table : Table α} {names : List String} {value : String → α}
    (h : ∀ name, table.get? name = if name ∈ names then some (value name) else none) (own : String) (change : α → α)
    (name : String) : (table.modify own change).get? name =
      if name ∈ names then some (if name = own then change (value name) else value name) else none := by
  rw [get?_modify, h, h]
  by_cases hown : name = own
  · subst hown
    by_cases hname : name ∈ names
    · simp [hname]
    · simp [hname]
  · simp [hown]

theorem lookup_isSome_iff {entries : List (String × α)} {name : String} :
    (entries.lookup name).isSome ↔ name ∈ entries.map Prod.fst := by
  rw [List.lookup_isSome_iff, List.mem_map]
  exact exists_congr fun entry => and_congr_right fun _ => beq_iff_eq.trans eq_comm

theorem mem_names_iff {table : Table α} {name : String} : name ∈ table.names ↔ (table.get? name).isSome :=
  lookup_isSome_iff.symm

theorem nodup_names (table : Table α) : table.names.Nodup := by
  rw [List.Nodup, names, List.pairwise_map]
  exact table.ascending.imp fun hbefore => Std.ne_of_lt hbefore

/-- A table has its names in an order of its own, each of them once. -/
theorem names_perm {table : Table α} {names : List String} (hdistinct : names.Nodup)
    (h : ∀ name, name ∈ table.names ↔ name ∈ names) : table.names.Perm names :=
  (List.perm_ext_iff_of_nodup table.nodup_names hdistinct).2 h

theorem mem_names_ofList_iff {entries : List (String × α)} {name : String} :
    name ∈ (ofList entries).names ↔ name ∈ entries.map Prod.fst := by
  rw [mem_names_iff, get?_ofList, lookup_isSome_iff, List.map_reverse, List.mem_reverse]

end Table

end GuardedPlan
