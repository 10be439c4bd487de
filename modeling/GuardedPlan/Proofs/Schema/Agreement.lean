import GuardedPlan.Proofs.Decode.Reading
import GuardedPlan.Proofs.Schema.Union

/-!
# Schemas and decoders that agree

A schema and a decoder were written apart from each other. They agree when the decoder reads every value that the schema lets through, and that is put together the way both are: from the agreement on single values comes that on lists, tables and records. A record agrees field by field, and a field agrees when its decoder reads what the schema says of its name; a name that a closed schema does not know has a schema that nothing meets.
-/

namespace GuardedPlan.Schema

variable {α β : Type} {schema : Schema} {decode : Json → Decoded α}

/-- Every value that meets the schema is read. -/
def ReadBy (schema : Schema) (decode : Json → Decoded α) : Prop :=
  ∀ value, Meets schema value → ∃ given, decode value = .ok given

/-! ### Single values -/

theorem readBy_text : ReadBy text Decode.text := by
  intro value hmeets
  obtain ⟨content, rfl⟩ := (meets_text_iff value).1 hmeets
  exact ⟨content, rfl⟩

theorem readBy_someText : ReadBy someText Decode.text := by
  intro value hmeets
  obtain ⟨content, _, rfl⟩ := (meets_someText_iff value).1 hmeets
  exact ⟨content, rfl⟩

theorem readBy_shaped (shape : TextPattern) : ReadBy (shaped shape) Decode.text := by
  intro value hmeets
  obtain ⟨content, _, rfl⟩ := (meets_shaped_iff shape value).1 hmeets
  exact ⟨content, rfl⟩

theorem readBy_boolean : ReadBy boolean Decode.boolean := by
  intro value hmeets
  obtain ⟨b, rfl⟩ := (meets_boolean_iff value).1 hmeets
  exact ⟨b, rfl⟩

theorem readBy_ratio : ReadBy ratio Decode.float := by
  intro value hmeets
  obtain ⟨n, rfl, _⟩ := (meets_ratio_iff value).1 hmeets
  exact ⟨n.toBinary64, rfl⟩

theorem readBy_any (schema : Schema) : ReadBy schema Decode.any :=
  fun value _ => ⟨value, rfl⟩

/-- Constants that have a name each. -/
theorem readBy_constant {allowed : List String} {known : List (String × α)}
    (h : ∀ name ∈ allowed, (known.lookup name).isSome = true) :
    ReadBy [.options allowed] (Decode.constant known) := by
  intro value hmeets
  rw [meets_singleton_iff, ruleIssues_options_eq_nil_iff] at hmeets
  obtain ⟨name, hname, rfl⟩ := hmeets
  obtain ⟨constant, hconstant⟩ := Option.isSome_iff_exists.1 (h name hname)
  exact ⟨constant, by rw [Decode.constant, hconstant]⟩

theorem readBy_integer (n : Nat) : ReadBy [.constant (.integer n)] Decode.natural := by
  intro value hmeets
  rw [meets_singleton_iff, ruleIssues_constant_eq_nil_iff] at hmeets
  have hvalue : value = .number (.int n) := by
    unfold Constant.accepts at hmeets
    split at hmeets <;> simp_all
  refine ⟨n, ?_⟩
  rw [hvalue, Decode.natural, Json.natural?, if_pos (Int.natCast_nonneg n)]
  rfl

/-- The schema that nothing meets agrees with every decoder. -/
theorem readBy_nothing : ReadBy [.kinds []] decode := by
  intro value hmeets
  rw [meets_singleton_iff, ruleIssues_kinds_eq_nil_iff] at hmeets
  cases hmeets

/-! ### Values made of others -/

theorem ReadBy.list (h : ReadBy schema decode) : ReadBy (listOf schema) (Decode.list decode) := by
  intro value hmeets
  obtain ⟨items, rfl, hitems⟩ := (meets_listOf_iff schema value).1 hmeets
  exact exists_mapM_eq_ok fun item hitem => h item (hitems item hitem)

theorem ReadBy.table (h : ReadBy schema decode) : ReadBy [.members schema, .kinds [.object]] (Decode.table decode) := by
  intro value hmeets
  obtain ⟨fields, rfl, hfields⟩ := (meets_members_iff schema value).1 hmeets
  have hread : ∀ field ∈ fields, ∃ entry, ((decode field.2).map fun given => (field.1, given)) = .ok entry := by
    intro field hfield
    obtain ⟨given, hgiven⟩ := h field.2 (hfields field hfield)
    exact ⟨(field.1, given), by rw [hgiven]; rfl⟩
  obtain ⟨entries, hentries⟩ := exists_mapM_eq_ok hread
  exact ⟨Table.ofList entries, by rw [Decode.table, hentries]; rfl⟩

theorem ReadBy.nullable (h : ReadBy schema decode) : ReadBy schema (Decode.nullable decode) := by
  intro value hmeets
  by_cases hnull : value = .null
  · exact ⟨none, by rw [hnull]; rfl⟩
  · obtain ⟨given, hgiven⟩ := h value hmeets
    exact ⟨some given, Decode.nullable_eq_some_iff.2 ⟨hnull, hgiven⟩⟩

/-- A text or null. -/
theorem readBy_textOrNull : ReadBy [.kinds [.string, .null]] (Decode.nullable Decode.text) := by
  intro value hmeets
  rw [meets_singleton_iff, ruleIssues_kinds_eq_nil_iff] at hmeets
  cases value with
  | null => exact ⟨none, rfl⟩
  | string content => exact ⟨some content, rfl⟩
  | _ => simp [Json.kind] at hmeets

/-! ### Fields of records -/

/-- Whatever the members hold under a name meets the schema of the name. -/
def Under (schemas : String → Schema) (members : List (String × Json)) : Prop :=
  ∀ name value, Json.lookup name members = some value → Meets (schemas name) value

/-- The schemas of the names of a closed record. -/
def within (properties : List (String × Schema)) (name : String) : Schema :=
  (properties.lookup name).getD [.kinds []]

/-- The schemas of the names of a record that may hold more than is declared. -/
def beside (properties : List (String × Schema)) (name : String) : Schema :=
  (properties.lookup name).getD []

theorem under_within {properties : List (String × Schema)} {members : List (String × Json)}
    (h : ∀ member ∈ members, Declared properties member) : Under (within properties) members := by
  intro name value hvalue
  obtain ⟨schema, hschema, hmeets⟩ := h _ (Json.mem_of_lookup_eq_some hvalue)
  rw [within, hschema]
  exact hmeets

theorem under_beside {properties : List (String × Schema)} {members : List (String × Json)}
    (h : ∀ property ∈ properties, ∀ value, Json.lookup property.1 members = some value → Meets property.2 value) :
    Under (beside properties) members := by
  intro name value hvalue
  rw [beside]
  cases hschema : properties.lookup name with
  | none => exact meets_nil value
  | some schema =>
    obtain ⟨before, after, rfl, _⟩ := List.lookup_eq_some_iff.1 hschema
    exact h (name, schema) (List.mem_append_right before List.mem_cons_self) value hvalue

/-- A reader of fields has a value for all members under the schemas that hold the needed names. -/
def Complete (schemas : String → Schema) (needed : List String) (fields : Fields α) : Prop :=
  ∀ members, Under schemas members → (∀ name ∈ needed, ∃ value, Json.lookup name members = some value) →
    ∃ given, (fields members).value = .ok given

variable {schemas : String → Schema} {needed : List String} {name : String}

theorem Complete.required (hneeded : name ∈ needed) (h : ReadBy (schemas name) decode) :
    Complete schemas needed (.required name decode) := by
  intro members hunder hpresent
  obtain ⟨value, hvalue⟩ := hpresent name hneeded
  obtain ⟨given, hgiven⟩ := h value (hunder name value hvalue)
  exact ⟨given, Fields.value_required_eq_ok_iff.2 ⟨value, hvalue, hgiven⟩⟩

theorem Complete.defaulted {absent : α} (h : ReadBy (schemas name) decode) :
    Complete schemas needed (.defaulted name absent decode) := by
  intro members hunder _
  cases hlookup : Json.lookup name members with
  | none => exact ⟨absent, Fields.value_defaulted_eq_ok_iff.2 (.inl ⟨hlookup, rfl⟩)⟩
  | some value =>
    obtain ⟨given, hgiven⟩ := h value (hunder name value hlookup)
    exact ⟨given, Fields.value_defaulted_eq_ok_iff.2 (.inr ⟨value, hlookup, hgiven⟩)⟩

theorem Complete.optional (h : ReadBy (schemas name) decode) : Complete schemas needed (.optional name decode) := by
  intro members hunder _
  cases hlookup : Json.lookup name members with
  | none => exact ⟨none, Fields.value_optional_eq_ok_iff.2 (.inl ⟨hlookup, rfl⟩)⟩
  | some value =>
    obtain ⟨given, hgiven⟩ := h.nullable value (hunder name value hlookup)
    exact ⟨given, Fields.value_optional_eq_ok_iff.2 (.inr ⟨value, hlookup, hgiven⟩)⟩

theorem Complete.map {make : α → β} {fields : Fields α} (h : Complete schemas needed fields) :
    Complete schemas needed (make <$> fields) := by
  intro members hunder hpresent
  obtain ⟨given, hgiven⟩ := h members hunder hpresent
  exact ⟨make given, Fields.value_map_eq_ok_iff.2 ⟨given, hgiven, rfl⟩⟩

theorem Complete.seq {first : Fields (α → β)} {second : Fields α} (hfirst : Complete schemas needed first)
    (hsecond : Complete schemas needed second) : Complete schemas needed (first <*> second) := by
  intro members hunder hpresent
  obtain ⟨make, hmake⟩ := hfirst members hunder hpresent
  obtain ⟨given, hgiven⟩ := hsecond members hunder hpresent
  exact ⟨make given, Fields.value_seq_eq_ok_iff.2 ⟨make, given, hmake, hgiven, rfl⟩⟩

/-! ### Records -/

theorem ReadBy.record {properties : List (String × Schema)} {fields : Fields α} [Fields.Honest fields] {title : String}
    (h : Complete (within properties) needed fields) :
    ReadBy (Schema.record properties needed) (fields.record title false) := by
  intro value hmeets
  obtain ⟨members, rfl, hdeclared, hpresent⟩ := (meets_record_iff properties needed value).1 hmeets
  obtain ⟨given, hgiven⟩ := h members (under_within hdeclared) hpresent
  exact ⟨given, Fields.record_object_eq_ok_iff.2 hgiven⟩

/-- An open record, whose other members nobody reads. -/
theorem ReadBy.openRecord {properties : List (String × Schema)} {fields : Fields α} [Fields.Honest fields]
    {title : String} (h : Complete (beside properties) needed fields) :
    ReadBy [.properties properties, .required needed, .kinds [.object]] (fields.record title false) := by
  intro value hmeets
  rw [meets_cons_iff, meets_cons_iff, meets_singleton_iff, ruleIssues_kinds_eq_nil_iff] at hmeets
  obtain ⟨hproperties, hrequired, hkind⟩ := hmeets
  cases value with
  | object members =>
    rw [ruleIssues_properties_eq_nil_iff] at hproperties
    rw [ruleIssues_required_eq_nil_iff] at hrequired
    obtain ⟨given, hgiven⟩ := h members (under_beside hproperties) hrequired
    exact ⟨given, Fields.record_object_eq_ok_iff.2 hgiven⟩
  | _ => simp [Json.kind] at hkind

theorem ReadBy.body {properties : List (String × Schema)} {fields : Fields α} [Fields.Honest fields]
    (hslots : ∀ members, (fields members).slots.map Slot.name = properties.map Prod.fst)
    (h : Complete (within properties) needed fields) : ReadBy (Schema.record properties needed) fields.body := by
  intro value hmeets
  obtain ⟨members, rfl, hdeclared, hpresent⟩ := (meets_record_iff properties needed value).1 hmeets
  obtain ⟨given, hgiven⟩ := h members (under_within hdeclared) hpresent
  refine ⟨given, Fields.body_object_eq_ok hgiven fun member hmember => ?_⟩
  rw [hslots]
  exact (hdeclared member hmember).name_mem

/-- The members beside the tag are read without it. -/
theorem Complete.exists_read {properties : List (String × Schema)} {fields : Fields α} [Fields.Honest fields]
    {tag : String} {tagSchema : Schema} {members : List (String × Json)}
    (h : Complete (within properties) needed fields) (htag : tag ∉ needed)
    (hdeclared : ∀ member ∈ members, Declared ((tag, tagSchema) :: properties) member)
    (hpresent : ∀ name ∈ needed, ∃ value, Json.lookup name members = some value) (title : String) :
    ∃ given, Tagged.read ⟨name, .inl (members.filter fun member => member.1 ≠ tag)⟩ title fields = .ok given := by
  have hunder : Under (within properties) (members.filter fun member => member.1 ≠ tag) := by
    apply under_within
    intro member hmember
    obtain ⟨hmember, hother⟩ := List.mem_filter.1 hmember
    have hmeets := hdeclared member hmember
    rwa [declared_cons_iff, if_neg (by simpa using hother)] at hmeets
  have hheld : ∀ key ∈ needed, ∃ value,
      Json.lookup key (members.filter fun member => member.1 ≠ tag) = some value := by
    intro key hkey
    have hother : key ≠ tag := by
      rintro rfl
      exact htag hkey
    rw [Tagged.lookup_filter_ne hother]
    exact hpresent key hkey
  obtain ⟨given, hgiven⟩ := h _ hunder hheld
  exact ⟨given, Tagged.read_members_eq_ok_iff.2 hgiven⟩

theorem Complete.exists_read_of_fits {row : Alternative} {fields : Fields α} [Fields.Honest fields] {tag : String}
    {members : List (String × Json)} (h : Complete (within row.2) (row.2.map Prod.fst) fields)
    (hfits : Fits tag row name members) (htag : tag ∉ row.2.map Prod.fst) (title : String) :
    ∃ given, Tagged.read ⟨name, .inl (members.filter fun member => member.1 ≠ tag)⟩ title fields = .ok given :=
  h.exists_read htag hfits.declared hfits.present title

end GuardedPlan.Schema
