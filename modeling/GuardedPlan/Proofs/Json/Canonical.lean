import GuardedPlan.Json.Basic

/-!
# Canonical values

Sorting the fields of an object keeps what each name stands for and, when no name repeats, the fields themselves. So a reader or a schema that looks at an object by names sees the same in its canonical form.
-/

namespace GuardedPlan

/-! ### Adding entries in order -/

theorem insertEntry_eq_append {α : Type} {name : String} {value : α} {entries : List (String × α)}
    (h : ∀ entry ∈ entries, entry.1 < name) : insertEntry name value entries = entries ++ [(name, value)] := by
  induction entries with
  | nil => rfl
  | cons entry rest ih =>
    obtain ⟨other, kept⟩ := entry
    have hother : other < name := h (other, kept) List.mem_cons_self
    have hne : name ≠ other := (Std.ne_of_lt hother).symm
    have hlt : ¬ name < other := fun hbefore => String.lt_irrefl name (String.lt_trans hbefore hother)
    rw [insertEntry, if_neg hne, if_neg hlt, ih fun found hfound => h found (List.mem_cons_of_mem _ hfound),
      List.cons_append]

/-- Entries that ascend already are not moved. -/
theorem foldl_insertEntry_eq_append {α : Type} {before entries : List (String × α)}
    (h : Ascending (before ++ entries)) :
    entries.foldl (fun sorted entry => insertEntry entry.1 entry.2 sorted) before = before ++ entries := by
  induction entries generalizing before with
  | nil => simp
  | cons entry rest ih =>
    have hsplit : Ascending ((before ++ [entry]) ++ rest) := by rwa [List.append_assoc, List.singleton_append]
    have hlast : ∀ found ∈ before, found.1 < entry.1 := fun found hfound =>
      (List.pairwise_append.1 h).2.2 found hfound entry List.mem_cons_self
    rw [List.foldl_cons, insertEntry_eq_append hlast, ih hsplit, List.append_assoc, List.singleton_append]

theorem Table.ofList_entries {α : Type} (table : Table α) : Table.ofList table.entries = table := by
  have hentries : ∀ (entries : List (String × α)) (start : Table α),
      (entries.foldl (fun table entry => table.insert entry.1 entry.2) start).entries =
        entries.foldl (fun sorted entry => insertEntry entry.1 entry.2 sorted) start.entries := by
    intro entries
    induction entries with
    | nil => exact fun start => rfl
    | cons entry rest ih => exact fun start => ih (start.insert entry.1 entry.2)
  obtain ⟨entries, hascending⟩ := table
  rw [Table.ofList, Table.mk.injEq, hentries entries Table.empty]
  exact foldl_insertEntry_eq_append hascending

namespace Json

theorem canonicalItems_eq_map (items : List Json) : canonicalItems items = items.map canonical := by
  induction items with
  | nil => rfl
  | cons item rest ih => rw [canonicalItems, ih, List.map_cons]

theorem canonicalFields_eq_map (fields : List (String × Json)) :
    canonicalFields fields = fields.map fun field => (field.1, field.2.canonical) := by
  induction fields with
  | nil => rfl
  | cons field rest ih =>
    obtain ⟨name, value⟩ := field
    rw [canonicalFields, ih, List.map_cons]

@[simp] theorem canonical_string (content : String) : (string content).canonical = string content := rfl

@[simp] theorem canonical_number (n : Number) : (number n).canonical = number n := rfl

@[simp] theorem canonical_bool (b : Bool) : (bool b).canonical = bool b := rfl

@[simp] theorem canonical_array (items : List Json) : (array items).canonical = array (items.map canonical) := by
  rw [canonical, canonicalItems_eq_map]

@[simp] theorem canonical_strings (texts : List String) : (strings texts).canonical = strings texts := by
  rw [strings, canonical_array, List.map_map]
  rfl

/-! ### Sorted fields -/

theorem lookup_eq_listLookup (key : String) (fields : List (String × Json)) :
    lookup key fields = fields.lookup key := by
  induction fields with
  | nil => rfl
  | cons field rest ih =>
    obtain ⟨name, value⟩ := field
    rw [lookup, List.lookup_cons, ih]
    by_cases hkey : name = key
    · subst hkey
      simp
    · rw [if_neg hkey, beq_false_of_ne (Ne.symm hkey)]

theorem lookup_insertEntry (key name : String) (value : Json) (fields : List (String × Json)) :
    lookup key (insertEntry name value fields) = if name = key then some value else lookup key fields := by
  rw [lookup_eq_listLookup, lookup_eq_listLookup, GuardedPlan.lookup_insertEntry]
  simp only [eq_comm]

theorem lookup_eq_none_of_not_mem {key : String} {fields : List (String × Json)} (h : key ∉ fields.map Prod.fst) :
    lookup key fields = none := by
  induction fields with
  | nil => rfl
  | cons field rest ih =>
    obtain ⟨name, value⟩ := field
    rw [List.map_cons, List.mem_cons, not_or] at h
    rw [lookup, if_neg (Ne.symm h.1), ih h.2]

/-- Sorting keeps what each name stands for, as long as names do not repeat. -/
theorem lookup_sortFields {fields : List (String × Json)} (h : (fields.map Prod.fst).Nodup) (key : String) :
    lookup key (sortFields fields) = lookup key fields := by
  have hfold : ∀ (fields before : List (String × Json)), (fields.map Prod.fst).Nodup →
      lookup key (fields.foldl (fun sorted field => insertEntry field.1 field.2 sorted) before) =
        (lookup key fields).or (lookup key before) := by
    intro fields
    induction fields with
    | nil => simp [lookup]
    | cons field rest ih =>
      intro before hnodup
      obtain ⟨name, value⟩ := field
      rw [List.map_cons, List.nodup_cons] at hnodup
      rw [List.foldl_cons, ih _ hnodup.2, lookup_insertEntry, lookup]
      split
      · subst key
        rw [lookup_eq_none_of_not_mem hnodup.1, Option.none_or, Option.some_or]
      · rfl
  rw [sortFields, hfold fields [] h, lookup, Option.or_none]

theorem mem_of_mem_sortFields {fields : List (String × Json)} {field : String × Json} (h : field ∈ sortFields fields) :
    field ∈ fields := by
  have hfold : ∀ fields before : List (String × Json),
      field ∈ fields.foldl (fun sorted field => insertEntry field.1 field.2 sorted) before →
        field ∈ before ∨ field ∈ fields := by
    intro fields
    induction fields with
    | nil => exact fun before hmem => .inl hmem
    | cons first rest ih =>
      intro before hmem
      rcases ih _ hmem with hbefore | hrest
      · rcases mem_insertEntry hbefore with rfl | hbefore
        · exact .inr List.mem_cons_self
        · exact .inl hbefore
      · exact .inr (List.mem_cons_of_mem _ hrest)
  rcases hfold fields [] h with hnil | hmem
  · cases hnil
  · exact hmem

theorem mem_of_lookup_eq_some {key : String} {value : Json} {fields : List (String × Json)}
    (h : lookup key fields = some value) : (key, value) ∈ fields := by
  induction fields with
  | nil => cases h
  | cons field rest ih =>
    obtain ⟨name, kept⟩ := field
    rw [lookup] at h
    split at h
    · rename_i hname
      cases h
      rw [hname]
      exact List.mem_cons_self
    · exact List.mem_cons_of_mem _ (ih h)

theorem lookup_eq_some_of_mem {key : String} {value : Json} {fields : List (String × Json)}
    (hnodup : (fields.map Prod.fst).Nodup) (h : (key, value) ∈ fields) : lookup key fields = some value := by
  induction fields with
  | nil => cases h
  | cons field rest ih =>
    obtain ⟨name, kept⟩ := field
    rw [List.map_cons, List.nodup_cons] at hnodup
    rcases List.mem_cons.1 h with hfirst | hrest
    · cases hfirst
      simp [lookup]
    · have hname : name ≠ key := by
        rintro rfl
        exact hnodup.1 (List.mem_map.2 ⟨_, hrest, rfl⟩)
      rw [lookup, if_neg hname, ih hnodup.2 hrest]

theorem mem_sortFields_iff {fields : List (String × Json)} (hnodup : (fields.map Prod.fst).Nodup)
    {field : String × Json} : field ∈ sortFields fields ↔ field ∈ fields := by
  refine ⟨mem_of_mem_sortFields, fun hmem => ?_⟩
  obtain ⟨key, value⟩ := field
  refine mem_of_lookup_eq_some ?_
  rw [lookup_sortFields hnodup, lookup_eq_some_of_mem hnodup hmem]

theorem lookup_map (key : String) (change : String → Json → Json) (fields : List (String × Json)) :
    lookup key (fields.map fun field => (field.1, change field.1 field.2)) = (lookup key fields).map (change key) := by
  induction fields with
  | nil => rfl
  | cons field rest ih =>
    obtain ⟨name, value⟩ := field
    simp only [List.map_cons, lookup, ih]
    split
    · rename_i hname
      rw [hname, Option.map_some]
    · rfl

/-- The fields of the canonical form of an object. -/
def canonicalMembers (fields : List (String × Json)) : List (String × Json) :=
  sortFields (canonicalFields fields)

theorem canonical_object (fields : List (String × Json)) :
    (object fields).canonical = object (canonicalMembers fields) := rfl

theorem names_canonicalFields (fields : List (String × Json)) :
    (canonicalFields fields).map Prod.fst = fields.map Prod.fst := by
  rw [canonicalFields_eq_map, List.map_map]
  rfl

theorem lookup_canonicalMembers {fields : List (String × Json)} (h : (fields.map Prod.fst).Nodup) (key : String) :
    lookup key (canonicalMembers fields) = (lookup key fields).map canonical := by
  rw [canonicalMembers, lookup_sortFields (by rwa [names_canonicalFields]), canonicalFields_eq_map]
  exact lookup_map key (fun _ => canonical) fields

theorem forall_mem_canonicalMembers {fields : List (String × Json)} (h : (fields.map Prod.fst).Nodup)
    {P : String × Json → Prop} :
    (∀ field ∈ canonicalMembers fields, P field) ↔ ∀ field ∈ fields, P (field.1, field.2.canonical) := by
  have hmem : ∀ field, field ∈ canonicalMembers fields ↔ field ∈ canonicalFields fields := fun field =>
    mem_sortFields_iff (by rwa [names_canonicalFields])
  simp only [hmem, canonicalFields_eq_map, List.forall_mem_map]

theorem canonicalMembers_eq_self {fields : List (String × Json)} (hascending : Ascending fields)
    (hvalues : ∀ field ∈ fields, field.2.canonical = field.2) : canonicalMembers fields = fields := by
  have hmap : canonicalFields fields = fields := by
    rw [canonicalFields_eq_map]
    refine (List.map_congr_left fun field hfield => ?_).trans (List.map_id' fields)
    rw [hvalues field hfield]
  rw [canonicalMembers, hmap, sortFields]
  exact foldl_insertEntry_eq_append hascending

/-- A table of texts is canonical as it is. -/
@[simp] theorem canonical_texts (table : Table String) :
    (object (table.map string).entries).canonical = object (table.map string).entries := by
  rw [canonical_object, canonicalMembers_eq_self (table.map string).ascending]
  intro field hfield
  obtain ⟨entry, _, rfl⟩ := List.mem_map.1 hfield
  rfl

end Json

end GuardedPlan
