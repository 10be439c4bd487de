import GuardedPlan.Proofs.Json.Canonical

/-!
# Values that are in canonical form

Every object that is read keeps its fields by ascending name, so a value that was read is its own canonical form. Ascending fields are told by what their names stand for, and that is how an encoded record is compared with the object it was read from: name by name, in whatever order the record lists its members.
-/

namespace GuardedPlan.Json

/-! ### Fields told by their names -/

theorem ascending_sortFields (fields : List (String × Json)) : Ascending (sortFields fields) := by
  have hfold : ∀ fields before : List (String × Json), Ascending before →
      Ascending (fields.foldl (fun sorted field => insertEntry field.1 field.2 sorted) before) := by
    intro fields
    induction fields with
    | nil => exact fun before hbefore => hbefore
    | cons field rest ih => exact fun before hbefore => ih _ (hbefore.insertEntry field.1 field.2)
  exact hfold fields [] List.Pairwise.nil

theorem lookup_eq_none_of_lt {key : String} {fields : List (String × Json)} (h : ∀ field ∈ fields, key < field.1) :
    lookup key fields = none := by
  apply lookup_eq_none_of_not_mem
  intro hmem
  obtain ⟨field, hfield, rfl⟩ := List.mem_map.1 hmem
  exact String.lt_irrefl _ (h field hfield)

theorem head_not_lt_of_lookup_eq {first second : String × Json} {rest others : List (String × Json)}
    (hothers : Ascending (second :: others))
    (h : ∀ key, lookup key (first :: rest) = lookup key (second :: others)) : ¬ first.1 < second.1 := by
  intro hlt
  have hnone : lookup first.1 (second :: others) = none := by
    apply lookup_eq_none_of_lt
    intro field hfield
    rcases List.mem_cons.1 hfield with rfl | hfield
    · exact hlt
    · exact String.lt_trans hlt ((List.pairwise_cons.1 hothers).1 field hfield)
  have hsome : lookup first.1 (first :: rest) = some first.2 := if_pos rfl
  rw [← h, hsome] at hnone
  cases hnone

/-- Ascending fields are told by what their names stand for. -/
theorem eq_of_lookup_eq {fields others : List (String × Json)} (hfields : Ascending fields) (hothers : Ascending others)
    (h : ∀ key, lookup key fields = lookup key others) : fields = others := by
  induction fields generalizing others with
  | nil =>
    cases others with
    | nil => rfl
    | cons second others =>
      have hfound : lookup second.1 (second :: others) = some second.2 := if_pos rfl
      rw [← h second.1] at hfound
      cases hfound
  | cons first rest ih =>
    cases others with
    | nil =>
      have hfound : lookup first.1 (first :: rest) = some first.2 := if_pos rfl
      rw [h first.1] at hfound
      cases hfound
    | cons second others =>
      have hname : first.1 = second.1 := Std.le_antisymm
        (String.not_lt.1 (head_not_lt_of_lookup_eq hfields fun key => (h key).symm))
        (String.not_lt.1 (head_not_lt_of_lookup_eq hothers h))
      obtain ⟨name, value⟩ := first
      obtain ⟨_, other⟩ := second
      cases hname
      have hvalue : value = other := by simpa [lookup] using h name
      obtain ⟨hbelow, hrest⟩ := List.pairwise_cons.1 hfields
      obtain ⟨habove, hothers⟩ := List.pairwise_cons.1 hothers
      have hsame : rest = others := by
        refine ih hrest hothers fun key => ?_
        by_cases hkey : name = key
        · subst hkey
          rw [lookup_eq_none_of_lt hbelow, lookup_eq_none_of_lt habove]
        · simpa [lookup, hkey] using h key
      rw [hvalue, hsame]

/-- Ascending fields that hold the given members, and nothing else, are the fields of their canonical form. -/
theorem canonicalMembers_eq_of_lookup {fields members : List (String × Json)} (hascending : Ascending fields)
    (hnames : (members.map Prod.fst).Nodup) (hclosed : ∀ field ∈ fields, field.1 ∈ members.map Prod.fst)
    (hheld : ∀ member ∈ members, lookup member.1 fields = some member.2.canonical) :
    canonicalMembers members = fields := by
  refine eq_of_lookup_eq (ascending_sortFields _) hascending fun key => ?_
  rw [lookup_canonicalMembers hnames]
  by_cases hkey : key ∈ members.map Prod.fst
  · obtain ⟨⟨_, value⟩, hmember, rfl⟩ := List.mem_map.1 hkey
    rw [lookup_eq_some_of_mem hnames hmember, hheld _ hmember]
    rfl
  · have hmissing : key ∉ fields.map Prod.fst := by
      intro hmem
      obtain ⟨field, hfield, rfl⟩ := List.mem_map.1 hmem
      exact hkey (hclosed field hfield)
    rw [lookup_eq_none_of_not_mem hkey, lookup_eq_none_of_not_mem hmissing]
    rfl

/-! ### Values that are canonical -/

/-- The value is its own canonical form. -/
def Canonical (value : Json) : Prop :=
  value.canonical = value

mutual

/-- Putting a value into canonical form twice changes nothing more. -/
theorem canonical_canonical : ∀ value : Json, value.canonical.Canonical
  | null => rfl
  | bool _ => rfl
  | number _ => rfl
  | string _ => rfl
  | array items => by
    have hitems := canonical_canonicalItems items
    rw [canonicalItems_eq_map] at hitems
    rw [Canonical, canonical_array, canonical_array, List.map_congr_left hitems, List.map_id']
  | object fields => by
    rw [Canonical, canonical_object, canonical_object, object.injEq]
    refine canonicalMembers_eq_self (ascending_sortFields _) fun field hfield => ?_
    exact canonical_canonicalFields fields field (mem_of_mem_sortFields hfield)

theorem canonical_canonicalItems : ∀ items : List Json, ∀ item ∈ canonicalItems items, item.Canonical
  | [], _, hitem => by cases hitem
  | first :: rest, item, hitem => by
    rcases List.mem_cons.1 hitem with rfl | hitem
    · exact canonical_canonical first
    · exact canonical_canonicalItems rest item hitem

theorem canonical_canonicalFields : ∀ fields : List (String × Json), ∀ field ∈ canonicalFields fields, field.2.Canonical
  | [], _, hfield => by cases hfield
  | (name, value) :: rest, field, hfield => by
    rcases List.mem_cons.1 hfield with rfl | hfield
    · exact canonical_canonical value
    · exact canonical_canonicalFields rest field hfield

end

namespace Canonical

variable {fields : List (String × Json)} {items : List Json}

theorem ascending (h : (object fields).Canonical) : Ascending fields := by
  rw [Canonical, canonical_object, object.injEq] at h
  rw [← h]
  exact ascending_sortFields _

theorem names_nodup (h : (object fields).Canonical) : (fields.map Prod.fst).Nodup := by
  have hascending := h.ascending
  exact List.pairwise_map.2 (hascending.imp fun hlt => Std.ne_of_lt hlt)

theorem lookup (h : (object fields).Canonical) {name : String} {value : Json}
    (hvalue : Json.lookup name fields = some value) : value.Canonical := by
  have hmembers : canonicalMembers fields = fields := by
    rwa [Canonical, canonical_object, object.injEq] at h
  have hsame := lookup_canonicalMembers h.names_nodup name
  rw [hmembers, hvalue, Option.map_some, Option.some.injEq] at hsame
  exact hsame.symm

theorem item (h : (array items).Canonical) {value : Json} (hvalue : value ∈ items) : value.Canonical := by
  have hitems : items.map canonical = items.map id := by
    rw [List.map_id]
    rwa [Canonical, canonical_array, array.injEq] at h
  exact List.map_inj_left.1 hitems value hvalue

end Canonical

end GuardedPlan.Json
