import GuardedPlan.Proofs.Schema.Meets

/-!
# Records and tagged unions in canonical form

An object in canonical form meets the schema of a record when its fields do, one by one. It meets a choice between tagged records whose tags are all different when it meets the one that has its tag: the tag keeps it out of every other.
-/

namespace GuardedPlan.Schema

theorem meets_record_canonical_iff {properties : List (String × Schema)} {required : List String}
    {fields : List (String × Json)} (hnames : (fields.map Prod.fst).Nodup) :
    Meets (record properties required) (.object (Json.canonicalMembers fields)) ↔
      (∀ field ∈ fields, Declared properties (field.1, field.2.canonical)) ∧
        ∀ name ∈ required, ∃ value, Json.lookup name fields = some value := by
  rw [meets_record_iff]
  simp only [Json.object.injEq, exists_eq_left', Json.forall_mem_canonicalMembers hnames,
    Json.lookup_canonicalMembers hnames, Option.map_eq_some_iff]
  refine and_congr_right fun _ => forall₂_congr fun name _ => ?_
  constructor
  · rintro ⟨_, value, hvalue, _⟩
    exact ⟨value, hvalue⟩
  · rintro ⟨value, hvalue⟩
    exact ⟨_, value, hvalue, rfl⟩

/-- The tags of an alternative and the properties that come with them. -/
abbrev Alternative := List String × List (String × Schema)

def tagSchema : List String → Schema
  | [only] => [.constant (.text only)]
  | several => [.options several]

theorem tagged_eq (tag : String) (row : Alternative) :
    tagged tag row.1 row.2 = [.closed ((tag, tagSchema row.1) :: row.2), .required (row.2.map Prod.fst)] := rfl

theorem meets_tagSchema_iff (tags : List String) (name : String) :
    Meets (tagSchema tags) (.string name) ↔ name ∈ tags := by
  have hconstant : ∀ only : String, Meets [.constant (.text only)] (.string name) ↔ name ∈ [only] := by
    intro only
    rw [meets_singleton_iff, ruleIssues_constant_eq_nil_iff]
    simp [Constant.accepts]
  have hoptions : ∀ several : List String, Meets [.options several] (.string name) ↔ name ∈ several := by
    intro several
    rw [meets_singleton_iff, ruleIssues_options_eq_nil_iff]
    simp
  unfold tagSchema
  split
  · exact hconstant _
  · exact hoptions _

/-- What meets the schema of a tag is one of the tags. -/
theorem exists_tag_of_meets {tags : List String} {value : Json} (h : Meets (tagSchema tags) value) :
    ∃ name ∈ tags, value = .string name := by
  have hkind : ∃ name, value = .string name := by
    unfold tagSchema at h
    split at h
    · rw [meets_singleton_iff, ruleIssues_constant_eq_nil_iff] at h
      cases value <;> simp [Constant.accepts] at h ⊢
    · rw [meets_singleton_iff, ruleIssues_options_eq_nil_iff] at h
      obtain ⟨name, _, hname⟩ := h
      exact ⟨name, hname⟩
  obtain ⟨name, rfl⟩ := hkind
  exact ⟨name, (meets_tagSchema_iff tags name).1 h, rfl⟩

theorem meets_tagged_iff {tag : String} {row : Alternative} {fields : List (String × Json)} :
    Meets (tagged tag row.1 row.2) (.object fields) ↔
      (∀ field ∈ fields, Declared ((tag, tagSchema row.1) :: row.2) field) ∧
        ∀ name ∈ row.2.map Prod.fst, ∃ value, Json.lookup name fields = some value := by
  rw [tagged_eq, meets_cons_iff, meets_singleton_iff, ruleIssues_closed_eq_nil_iff, ruleIssues_required_eq_nil_iff]

/-- A value with another tag does not meet an alternative. -/
theorem not_meets_tagged {tag name : String} {row : Alternative} {fields : List (String × Json)}
    (htag : Json.lookup tag fields = some (.string name)) (hname : name ∉ row.1) :
    ¬ Meets (tagged tag row.1 row.2) (.object fields) := by
  intro hmeets
  have hschema : Meets (tagSchema row.1) (.string name) :=
    Declared.meets_of_lookup (meets_tagged_iff.1 hmeets).1 htag (List.lookup_cons_self)
  exact hname ((meets_tagSchema_iff row.1 name).1 hschema)

theorem branchesMet_cons (branch : Schema) (rest : List Schema) (value : Json) :
    branchesMet (branch :: rest) value = (if (issues branch value).isEmpty then 1 else 0) + branchesMet rest value := by
  rw [branchesMet]

theorem isEmpty_issues_iff (schema : Schema) (value : Json) : (issues schema value).isEmpty = true ↔ Meets schema value :=
  List.isEmpty_iff

theorem branchesMet_eq_zero {tag name : String} {rows : List Alternative} {fields : List (String × Json)}
    (htag : Json.lookup tag fields = some (.string name)) (h : ∀ row ∈ rows, name ∉ row.1) :
    branchesMet (rows.map fun row => tagged tag row.1 row.2) (.object fields) = 0 := by
  induction rows with
  | nil => rw [List.map_nil, branchesMet]
  | cons row rest ih =>
    have hrow : ¬ (issues (tagged tag row.1 row.2) (.object fields)).isEmpty = true := by
      rw [isEmpty_issues_iff]
      exact not_meets_tagged htag (h row List.mem_cons_self)
    rw [List.map_cons, branchesMet_cons, if_neg hrow, ih fun other hother => h other (List.mem_cons_of_mem _ hother)]

/-- Among alternatives without a common tag, exactly one is met when the one with the tag of the value is. -/
theorem branchesMet_eq_one_iff {tag name : String} {rows : List Alternative} {fields : List (String × Json)}
    (htag : Json.lookup tag fields = some (.string name))
    (hrows : rows.Pairwise fun first second => ∀ shared ∈ first.1, shared ∉ second.1) :
    branchesMet (rows.map fun row => tagged tag row.1 row.2) (.object fields) = 1 ↔
      ∃ row ∈ rows, name ∈ row.1 ∧ Meets (tagged tag row.1 row.2) (.object fields) := by
  induction rows with
  | nil =>
    rw [List.map_nil, branchesMet]
    simp
  | cons row rest ih =>
    obtain ⟨hfirst, hrest⟩ := List.pairwise_cons.1 hrows
    rw [List.map_cons, branchesMet_cons]
    simp only [List.mem_cons, exists_eq_or_imp]
    by_cases hname : name ∈ row.1
    · have hothers : ∀ other ∈ rest, name ∉ other.1 := fun other hother => hfirst other hother name hname
      have hnone : ¬ ∃ other ∈ rest, name ∈ other.1 ∧ Meets (tagged tag other.1 other.2) (.object fields) := by
        rintro ⟨other, hother, hshared, _⟩
        exact hothers other hother hshared
      rw [branchesMet_eq_zero htag hothers, or_iff_left hnone, and_iff_right hname, ← isEmpty_issues_iff]
      cases (issues (tagged tag row.1 row.2) (.object fields)).isEmpty <;> simp
    · have hmissed : ¬ (issues (tagged tag row.1 row.2) (.object fields)).isEmpty = true := by
        rw [isEmpty_issues_iff]
        exact not_meets_tagged htag hname
      rw [if_neg hmissed, Nat.zero_add, ih hrest]
      simp [hname]

theorem ruleIssues_oneOf_eq_nil_iff (branches : List Schema) (value : Json) :
    ruleIssues (.oneOf branches) value = [] ↔ branchesMet branches value = 1 := by
  rw [ruleIssues]
  split <;> simp_all

theorem exists_branch_of_branchesMet {branches : List Schema} {value : Json} (h : branchesMet branches value ≠ 0) :
    ∃ branch ∈ branches, Meets branch value := by
  induction branches with
  | nil =>
    rw [branchesMet] at h
    exact absurd rfl h
  | cons branch rest ih =>
    by_cases hbranch : (issues branch value).isEmpty = true
    · exact ⟨branch, List.mem_cons_self, (isEmpty_issues_iff branch value).1 hbranch⟩
    · rw [branchesMet_cons, if_neg hbranch, Nat.zero_add] at h
      obtain ⟨other, hother, hmeets⟩ := ih h
      exact ⟨other, List.mem_cons_of_mem branch hother, hmeets⟩

/-- A value of a choice meets one of the branches. -/
theorem exists_branch_of_oneOf {branches : List Schema} {value : Json} (h : ruleIssues (.oneOf branches) value = []) :
    ∃ branch ∈ branches, Meets branch value := by
  rw [ruleIssues_oneOf_eq_nil_iff] at h
  exact exists_branch_of_branchesMet (by rw [h]; exact Nat.one_ne_zero)

/-- A tagged union of an object that has a tag. -/
theorem meets_union_iff {tag name : String} {rows : List Alternative} {fields : List (String × Json)}
    (htag : Json.lookup tag fields = some (.string name))
    (hrows : rows.Pairwise fun first second => ∀ shared ∈ first.1, shared ∉ second.1) :
    Meets [.oneOf (rows.map fun row => tagged tag row.1 row.2), .required [tag], .kinds [.object]] (.object fields) ↔
      ∃ row ∈ rows, name ∈ row.1 ∧ Meets (tagged tag row.1 row.2) (.object fields) := by
  rw [meets_cons_iff, meets_cons_iff, meets_singleton_iff, ruleIssues_oneOf_eq_nil_iff,
    branchesMet_eq_one_iff htag hrows, ruleIssues_required_eq_nil_iff, ruleIssues_kinds_eq_nil_iff]
  simp [htag, Json.kind]

/-- Fields with a tag of the alternative, all the properties that come with it and nothing else. -/
structure Fits (tag : String) (row : Alternative) (name : String) (fields : List (String × Json)) : Prop where
  named : name ∈ row.1
  tagged : Json.lookup tag fields = some (.string name)
  declared : ∀ field ∈ fields, Declared ((tag, tagSchema row.1) :: row.2) field
  present : ∀ property ∈ row.2.map Prod.fst, ∃ value, Json.lookup property fields = some value

/-- A value of a tagged union is an object that fits one of the alternatives. -/
theorem exists_fits_of_union {tag : String} {rows : List Alternative} {value : Json}
    (h : Meets [.oneOf (rows.map fun row => tagged tag row.1 row.2), .required [tag], .kinds [.object]] value) :
    ∃ fields, value = .object fields ∧ ∃ row ∈ rows, ∃ name, Fits tag row name fields := by
  rw [meets_cons_iff, meets_cons_iff, meets_singleton_iff, ruleIssues_kinds_eq_nil_iff] at h
  obtain ⟨hchoice, hrequired, hkind⟩ := h
  cases value with
  | object fields =>
    obtain ⟨branch, hbranch, hmeets⟩ := exists_branch_of_oneOf hchoice
    obtain ⟨row, hrow, rfl⟩ := List.mem_map.1 hbranch
    obtain ⟨hdeclared, hpresent⟩ := meets_tagged_iff.1 hmeets
    obtain ⟨given, hgiven⟩ := (ruleIssues_required_eq_nil_iff _ _).1 hrequired tag (List.mem_singleton.2 rfl)
    have htag : Meets (tagSchema row.1) given := Declared.meets_of_lookup hdeclared hgiven List.lookup_cons_self
    obtain ⟨name, hname, rfl⟩ := exists_tag_of_meets htag
    exact ⟨fields, rfl, row, hrow, name, hname, hgiven, hdeclared, hpresent⟩
  | _ => simp [Json.kind] at hkind

/-- A tagged union of an object in canonical form, told by the members that come with the tag. -/
theorem meets_union_canonical_iff {tag name : String} {rows : List Alternative} {members : List (String × Json)}
    (hnames : (tag :: members.map Prod.fst).Nodup)
    (hrows : rows.Pairwise fun first second => ∀ shared ∈ first.1, shared ∉ second.1)
    (htags : ∀ row ∈ rows, tag ∉ row.2.map Prod.fst) :
    Meets [.oneOf (rows.map fun row => tagged tag row.1 row.2), .required [tag], .kinds [.object]]
        (.object (Json.canonicalMembers ((tag, .string name) :: members))) ↔
      ∃ row ∈ rows, name ∈ row.1 ∧ (∀ member ∈ members, Declared row.2 (member.1, member.2.canonical)) ∧
        ∀ property ∈ row.2, ∃ value, Json.lookup property.1 members = some value := by
  have hnodup : (((tag, Json.string name) :: members).map Prod.fst).Nodup := hnames
  have htag : Json.lookup tag (Json.canonicalMembers ((tag, .string name) :: members)) = some (.string name) := by
    rw [Json.lookup_canonicalMembers hnodup, Json.lookup, if_pos rfl]
    rfl
  rw [meets_union_iff htag hrows]
  refine exists_congr fun row => and_congr_right fun hrow => and_congr_right fun hname => ?_
  have hother : ∀ property ∈ row.2.map Prod.fst, tag ≠ property := fun property hproperty heq =>
    htags row hrow (heq ▸ hproperty)
  have hdeclared : ∀ member ∈ members,
      (Declared ((tag, tagSchema row.1) :: row.2) (member.1, member.2.canonical) ↔
        Declared row.2 (member.1, member.2.canonical)) := by
    intro member hmember
    have hne : (member.1 == tag) = false := by
      rw [beq_eq_false_iff_ne]
      rintro rfl
      exact (List.nodup_cons.1 hnames).1 (List.mem_map_of_mem hmember)
    rw [Declared, List.lookup_cons, hne, Declared]
  rw [meets_tagged_iff, Json.forall_mem_canonicalMembers hnodup, List.forall_mem_cons]
  have htagged : Declared ((tag, tagSchema row.1) :: row.2) (tag, (Json.string name).canonical) :=
    ⟨tagSchema row.1, List.lookup_cons_self, (meets_tagSchema_iff row.1 name).2 hname⟩
  rw [and_iff_right htagged]
  rw [List.forall_mem_map]
  refine and_congr (forall₂_congr hdeclared) (forall₂_congr fun property hproperty => ?_)
  rw [Json.lookup_canonicalMembers hnodup, Json.lookup, if_neg (hother property.1 (List.mem_map_of_mem hproperty))]
  cases Json.lookup property.1 members <;> simp

end GuardedPlan.Schema
