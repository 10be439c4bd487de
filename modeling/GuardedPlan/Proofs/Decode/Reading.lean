import GuardedPlan.Decode
import GuardedPlan.Proofs.Base.Lists
import GuardedPlan.Proofs.Json.Canonical

/-!
# What a record reads

A reader of fields gives a value exactly when each of its fields does, and then it has met no fault: readers are built from single fields, and a field at fault has no value either. So an object read as a record that is not strict gives what its fields give, in whatever order it holds them.

A value whose alternative is named by one of its fields is taken apart into the tag and the members beside it. Looking up any other name finds the same beside the tag as in the whole value, wherever the tag stands.
-/

namespace GuardedPlan

/-! ### Values -/

namespace Decode

theorem text_eq_ok_iff {value : Json} {content : String} : text value = .ok content ↔ value = .string content := by
  cases value <;> simp [text]

theorem boolean_eq_ok_iff {value : Json} {b : Bool} : boolean value = .ok b ↔ value = .bool b := by
  cases value <;> simp [boolean]

theorem float_eq_ok_iff {value : Json} {x : Binary64} : float value = .ok x ↔ ∃ n, value = .number n ∧ n.toBinary64 = x := by
  cases value <;> simp [float]

theorem list_eq_ok_iff {α : Type} {item : Json → Decoded α} {value : Json} {given : List α} :
    list item value = .ok given ↔ ∃ items, value = .array items ∧ items.mapM item = .ok given := by
  cases value <;> simp [list]

theorem list_text_eq_ok {value : Json} {texts : List String} (h : list text value = .ok texts) :
    value = Json.strings texts := by
  obtain ⟨items, rfl, hitems⟩ := list_eq_ok_iff.1 h
  have hsame : texts.map Json.string = items.map id :=
    map_eq_of_mapM hitems fun item _ content hcontent => (text_eq_ok_iff.1 hcontent).symm
  rw [Json.strings, hsame, List.map_id]

/-- Only null is read as nothing. -/
theorem nullable_eq_some_iff {α : Type} {item : Json → Decoded α} {value : Json} {given : α} :
    nullable item value = .ok (some given) ↔ value ≠ .null ∧ item value = .ok given := by
  cases value with
  | null => simp [nullable]
  | _ => simp [nullable, Except.map_eq_ok_iff]

end Decode

namespace Fields

variable {α β : Type} {members : List (String × Json)}

/-! ### Fields -/

@[simp] theorem value_seq_eq_ok_iff {first : Fields (α → β)} {second : Fields α} {made : β} :
    ((first <*> second) members).value = .ok made ↔
      ∃ make given, (first members).value = .ok make ∧ (second members).value = .ok given ∧ made = make given := by
  have hvalue : ((first <*> second) members).value =
      (first members).value.bind fun make => (second members).value.map make := rfl
  rw [hvalue, Except.bind_eq_ok_iff]
  constructor
  · rintro ⟨make, hmake, hmade⟩
    obtain ⟨given, hgiven, rfl⟩ := Except.map_eq_ok_iff.1 hmade
    exact ⟨make, given, hmake, hgiven, rfl⟩
  · rintro ⟨make, given, hmake, hgiven, rfl⟩
    exact ⟨make, hmake, Except.map_eq_ok_iff.2 ⟨given, hgiven, rfl⟩⟩

@[simp] theorem value_map_eq_ok_iff {make : α → β} {fields : Fields α} {made : β} :
    ((make <$> fields) members).value = .ok made ↔ ∃ given, (fields members).value = .ok given ∧ made = make given := by
  have hmap : (make <$> fields) = (Pure.pure make <*> fields : Fields β) := rfl
  have hpure : ((Pure.pure make : Fields (α → β)) members).value = .ok make := rfl
  rw [hmap, value_seq_eq_ok_iff]
  simp [hpure]

@[simp] theorem value_required_eq_ok_iff {name : String} {decode : Json → Decoded α} {given : α} :
    (required name decode members).value = .ok given ↔
      ∃ value, Json.lookup name members = some value ∧ decode value = .ok given := by
  rw [required, field]
  cases Json.lookup name members with
  | none => simp
  | some value => cases hdecode : decode value <;> simp [hdecode]

theorem lookup_of_required_text {name content : String} (h : (required name Decode.text members).value = .ok content) :
    Json.lookup name members = some (.string content) := by
  obtain ⟨value, hvalue, htext⟩ := value_required_eq_ok_iff.1 h
  rw [hvalue, Decode.text_eq_ok_iff.1 htext]

theorem lookup_of_required_texts {name : String} {texts : List String}
    (h : (required name (Decode.list Decode.text) members).value = .ok texts) :
    Json.lookup name members = some (Json.strings texts) := by
  obtain ⟨value, hvalue, htexts⟩ := value_required_eq_ok_iff.1 h
  rw [hvalue, Decode.list_text_eq_ok htexts]

@[simp] theorem value_defaulted_eq_ok_iff {name : String} {absent given : α} {decode : Json → Decoded α} :
    (defaulted name absent decode members).value = .ok given ↔
      (Json.lookup name members = none ∧ given = absent) ∨
        ∃ value, Json.lookup name members = some value ∧ decode value = .ok given := by
  rw [defaulted, field]
  cases Json.lookup name members with
  | none => simp [eq_comm]
  | some value => cases hdecode : decode value <;> simp [hdecode]

@[simp] theorem value_optional_eq_ok_iff {name : String} {given : Option α} {decode : Json → Decoded α} :
    (optional name decode members).value = .ok given ↔
      (Json.lookup name members = none ∧ given = none) ∨
        ∃ value, Json.lookup name members = some value ∧ Decode.nullable decode value = .ok given := by
  rw [optional, field]
  cases Json.lookup name members with
  | none => simp [eq_comm]
  | some value => cases hdecode : Decode.nullable decode value <;> simp [hdecode]

/-! ### Faults -/

/-- A reader that meets no fault when it has a value. -/
class Honest (fields : Fields α) : Prop where
  faults_eq_nil : ∀ members given, (fields members).value = .ok given → (fields members).faults = []

theorem honest_field (slot : Slot) (absent : Decoded α) (decode : Json → Decoded α) :
    Honest (field slot absent decode) := by
  refine ⟨fun members given hvalue => ?_⟩
  unfold field at hvalue ⊢
  cases hlookup : Json.lookup slot.name members with
  | none => rfl
  | some value => cases hdecode : decode value <;> simp_all

instance (name : String) (decode : Json → Decoded α) : Honest (required name decode) := honest_field _ _ _

instance (name : String) (absent : α) (decode : Json → Decoded α) : Honest (defaulted name absent decode) :=
  honest_field _ _ _

instance (name : String) (decode : Json → Decoded α) : Honest (optional name decode) := honest_field _ _ _

instance {first : Fields (α → β)} {second : Fields α} [Honest first] [Honest second] : Honest (first <*> second) := by
  refine ⟨fun members made hvalue => ?_⟩
  obtain ⟨make, given, hmake, hgiven, _⟩ := value_seq_eq_ok_iff.1 hvalue
  have hfaults : ((first <*> second) members).faults = (first members).faults ++ (second members).faults := rfl
  rw [hfaults, Honest.faults_eq_nil members make hmake, Honest.faults_eq_nil members given hgiven, List.append_nil]

instance {make : α → β} {fields : Fields α} [Honest fields] : Honest (make <$> fields) := by
  refine ⟨fun members made hvalue => ?_⟩
  obtain ⟨given, hgiven, _⟩ := value_map_eq_ok_iff.1 hvalue
  have hfaults : ((make <$> fields) members).faults = (fields members).faults := rfl
  rw [hfaults, Honest.faults_eq_nil members given hgiven]

theorem firstFault_eq_none {reading : Reading α} (hfaults : reading.faults = []) (members : List (String × Json)) :
    firstFault false reading members = none := by
  induction members with
  | nil => rfl
  | cons member rest ih =>
    obtain ⟨name, value⟩ := member
    simp [firstFault, hfaults, ih]

/-- Members that are not declared do not keep a record from being read. -/
theorem ofMembers_eq_ok_iff {fields : Fields α} [Honest fields] {given : α} :
    fields.ofMembers false members = .ok given ↔ (fields members).value = .ok given := by
  rw [ofMembers]
  constructor
  · intro hread
    cases hfault : firstFault false (fields members) members with
    | none => simpa [hfault] using hread
    | some fault => simp [hfault] at hread
  · intro hvalue
    rw [firstFault_eq_none (Honest.faults_eq_nil members given hvalue)]
    exact hvalue

theorem record_object_eq_ok_iff {fields : Fields α} [Honest fields] {title : String} {given : α} :
    record fields title false (.object members) = .ok given ↔ (fields members).value = .ok given :=
  ofMembers_eq_ok_iff

/-! ### Strict records -/

@[simp] theorem slots_seq (first : Fields (α → β)) (second : Fields α) (members : List (String × Json)) :
    ((first <*> second) members).slots = (first members).slots ++ (second members).slots := rfl

@[simp] theorem slots_map (make : α → β) (fields : Fields α) (members : List (String × Json)) :
    ((make <$> fields) members).slots = (fields members).slots := rfl

theorem slots_field (slot : Slot) (absent : Decoded α) (decode : Json → Decoded α) (members : List (String × Json)) :
    (field slot absent decode members).slots = [slot] := by
  unfold field
  cases Json.lookup slot.name members with
  | none => rfl
  | some value => cases hdecode : decode value <;> simp [hdecode]

@[simp] theorem slots_required (name : String) (decode : Json → Decoded α) (members : List (String × Json)) :
    (required name decode members).slots = [⟨name, true⟩] := slots_field _ _ _ _

@[simp] theorem slots_defaulted (name : String) (absent : α) (decode : Json → Decoded α)
    (members : List (String × Json)) : (defaulted name absent decode members).slots = [⟨name, false⟩] :=
  slots_field _ _ _ _

theorem firstFault_strict_eq_none {reading : Reading α} (hfaults : reading.faults = [])
    {members : List (String × Json)} (hnames : ∀ member ∈ members, member.1 ∈ reading.slots.map Slot.name) :
    firstFault true reading members = none := by
  induction members with
  | nil => rfl
  | cons member rest ih =>
    obtain ⟨name, value⟩ := member
    obtain ⟨hname, hrest⟩ := List.forall_mem_cons.1 hnames
    obtain ⟨slot, hslot, hsame⟩ := List.mem_map.1 hname
    have hdeclared : (reading.slots.any fun slot => slot.name = name) = true :=
      List.any_eq_true.2 ⟨slot, hslot, by simpa using hsame⟩
    rw [firstFault, if_pos hdeclared, hfaults]
    exact ih hrest

/-- A strict record is read when its fields are, as long as it holds nothing else. -/
theorem body_object_eq_ok {fields : Fields α} [Honest fields] {given : α} (hvalue : (fields members).value = .ok given)
    (hnames : ∀ member ∈ members, member.1 ∈ (fields members).slots.map Slot.name) :
    body fields (.object members) = .ok given := by
  rw [body, ofMembers, firstFault_strict_eq_none (Honest.faults_eq_nil members given hvalue) hnames]
  exact hvalue

theorem value_optional_eq_some_iff {name : String} {decode : Json → Decoded α} {given : α} :
    (optional name decode members).value = .ok (some given) ↔
      ∃ value, Json.lookup name members = some value ∧ value ≠ .null ∧ decode value = .ok given := by
  rw [value_optional_eq_ok_iff]
  simp only [reduceCtorEq, and_false, false_or, Decode.nullable_eq_some_iff]

end Fields

/-! ### Tagged values -/

open Fields

namespace Tagged

theorem ofJson_object {field title name : String} {members : List (String × Json)}
    (h : Json.lookup field members = some (.string name)) :
    ofJson field title (.object members) = .ok ⟨name, .inl (members.filter fun member => member.1 ≠ field)⟩ := by
  rw [ofJson, h]
  rfl

theorem lookup_filter_ne {key field : String} (h : key ≠ field) (members : List (String × Json)) :
    Json.lookup key (members.filter fun member => member.1 ≠ field) = Json.lookup key members := by
  induction members with
  | nil => rfl
  | cons member rest ih =>
    obtain ⟨name, value⟩ := member
    rw [List.filter_cons]
    by_cases hname : name = field
    · rw [if_neg (by simp [hname]), ih, Json.lookup, if_neg (fun heq => h (heq.symm.trans hname))]
    · rw [if_pos (by simp [hname]), Json.lookup, Json.lookup, ih]

theorem exists_ofJson {field name : String} {members : List (String × Json)}
    (h : Json.lookup field members = some (.string name)) (title : String) :
    ∃ rest, ofJson field title (.object members) = .ok ⟨name, .inl rest⟩ ∧
      ∀ key, key ≠ field → Json.lookup key rest = Json.lookup key members :=
  ⟨_, ofJson_object h, fun _ hkey => lookup_filter_ne hkey members⟩

/-- The tag of an encoded value, and what can be looked up beside it. -/
theorem ofJson_canonical {tag : String} {members : List (String × Json)}
    (hnames : (tag :: members.map Prod.fst).Nodup) (title name : String) :
    ∃ rest, ofJson tag title (.object (Json.canonicalMembers ((tag, .string name) :: members))) = .ok ⟨name, .inl rest⟩ ∧
      ∀ key, key ≠ tag → Json.lookup key rest = (Json.lookup key members).map Json.canonical := by
  have hnodup : (((tag, Json.string name) :: members).map Prod.fst).Nodup := hnames
  have htag : Json.lookup tag (Json.canonicalMembers ((tag, .string name) :: members)) = some (.string name) := by
    rw [Json.lookup_canonicalMembers hnodup, Json.lookup, if_pos rfl]
    rfl
  obtain ⟨rest, hread, hrest⟩ := exists_ofJson htag title
  refine ⟨rest, hread, fun key hkey => ?_⟩
  rw [hrest key hkey, Json.lookup_canonicalMembers hnodup, Json.lookup, if_neg (Ne.symm hkey)]

theorem read_members_eq_ok_iff {α : Type} {name title : String} {members : List (String × Json)} {fields : Fields α}
    [Honest fields] {given : α} :
    read ⟨name, .inl members⟩ title fields = .ok given ↔ (fields members).value = .ok given :=
  ofMembers_eq_ok_iff

/-- An alternative with one text. -/
theorem read_text_eq_ok_iff {α : Type} {name title first : String} {members : List (String × Json)}
    {make : String → α} {given : α} :
    read ⟨name, .inl members⟩ title (make <$> .required first Decode.text) = .ok given ↔
      ∃ content, Json.lookup first members = some (.string content) ∧ given = make content := by
  rw [read_members_eq_ok_iff]
  simp [Decode.text_eq_ok_iff]

/-- An alternative with two texts. -/
theorem read_texts_eq_ok_iff {α : Type} {name title first second : String} {members : List (String × Json)}
    {make : String → String → α} {given : α} :
    read ⟨name, .inl members⟩ title (make <$> .required first Decode.text <*> .required second Decode.text) = .ok given ↔
      ∃ content other, Json.lookup first members = some (.string content) ∧
        Json.lookup second members = some (.string other) ∧ given = make content other := by
  rw [read_members_eq_ok_iff]
  simp only [value_seq_eq_ok_iff, value_map_eq_ok_iff, value_required_eq_ok_iff, Decode.text_eq_ok_iff,
    exists_eq_right]
  constructor
  · rintro ⟨_, other, ⟨content, hcontent, rfl⟩, hother, rfl⟩
    exact ⟨content, other, hcontent, hother, rfl⟩
  · rintro ⟨content, other, hcontent, hother, rfl⟩
    exact ⟨_, other, ⟨content, hcontent, rfl⟩, hother, rfl⟩

end Tagged

end GuardedPlan
