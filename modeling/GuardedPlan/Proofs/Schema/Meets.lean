import GuardedPlan.Proofs.Json.Canonical
import GuardedPlan.Schema.Documents

/-!
# Values that meet a schema

A schema with the issues taken away: a value meets it when there are none. For each kind of schema that documents are made of, one lemma says which values those are, so that what is known of a checked document can be read off its schema.
-/

namespace GuardedPlan

/-- A number is no less than zero and no more than one. -/
def Binary64.InUnit (x : Binary64) : Prop :=
  0 ≤ x.units ∧ x.units ≤ Binary64.one

-- The exponent is made a variable before the power is looked at, since nothing here may evaluate it.
theorem Binary64.one_pos : 0 < one := by
  unfold one
  generalize 1074 = exponent
  exact Nat.two_pow_pos exponent

theorem Binary64.two_pow_le_one {n : Nat} (h : n ≤ 1074) : Nat.pow 2 n ≤ one := by
  unfold one
  revert h
  generalize 1074 = exponent
  exact Nat.pow_le_pow_right (by decide)

theorem Binary64.inUnit_of_le {significand shift width : Nat} (hwidth : significand ≤ Nat.pow 2 width)
    (hshift : width + shift ≤ 1074) : InUnit ⟨false, significand, shift⟩ := by
  have hunits : units ⟨false, significand, shift⟩ = ((significand * Nat.pow 2 shift : Nat) : Int) := rfl
  have hbound : significand * Nat.pow 2 shift ≤ one := calc
    significand * Nat.pow 2 shift ≤ Nat.pow 2 width * Nat.pow 2 shift := Nat.mul_le_mul_right _ hwidth
    _ = Nat.pow 2 (width + shift) := (Nat.pow_add 2 width shift).symm
    _ ≤ one := two_pow_le_one hshift
  rw [InUnit, hunits]
  exact ⟨Int.natCast_nonneg _, Int.ofNat_le.2 hbound⟩

theorem Binary64.not_inUnit_of_negative {significand shift : Nat} (h : 0 < significand) :
    ¬ InUnit ⟨true, significand, shift⟩ := by
  rintro ⟨hlow, _⟩
  have hunits : units ⟨true, significand, shift⟩ = -((significand * Nat.pow 2 shift : Nat) : Int) := rfl
  have hpositive : 0 < significand * Nat.pow 2 shift := Nat.mul_pos h (Nat.pow_pos (by decide))
  rw [hunits] at hlow
  omega

/-- An integer of the unit interval is zero or one, and both are binary numbers. -/
theorem Number.units_toBinary64 {n : Number} (hlow : 0 ≤ n.units) (hhigh : n.units ≤ Binary64.one) :
    n.toBinary64.units = n.units := by
  cases n with
  | float value => rfl
  | int value =>
    have hcases : ∀ one : Int, 0 < one → 0 ≤ value * one → value * one ≤ one → value = 0 ∨ value = 1 := by
      intro one hone hlow hhigh
      have hbelow : value ≤ 1 := Int.le_of_mul_le_mul_right (by simpa using hhigh) hone
      have habove : 0 ≤ value := Int.le_of_mul_le_mul_right (by simpa using hlow) hone
      omega
    rcases hcases Binary64.one (Int.natCast_pos.2 Binary64.one_pos) hlow hhigh with rfl | rfl
    · decide +kernel
    · decide +kernel

theorem Number.inUnit_toBinary64 {n : Number} (hlow : 0 ≤ n.units) (hhigh : n.units ≤ Binary64.one) :
    n.toBinary64.InUnit := by
  have hunits := units_toBinary64 hlow hhigh
  refine ⟨?_, ?_⟩
  · rwa [hunits]
  · rwa [hunits]

namespace Schema

/-- A value has no issues under a schema. -/
def Meets (schema : Schema) (value : Json) : Prop :=
  issues schema value = []

theorem meets_nil (value : Json) : Meets [] value := by
  rw [Meets, issues]

theorem meets_cons_iff (rule : SchemaRule) (rest : Schema) (value : Json) :
    Meets (rule :: rest) value ↔ ruleIssues rule value = [] ∧ Meets rest value := by
  rw [Meets, issues, List.append_eq_nil_iff, Meets]

theorem meets_append_iff (first second : Schema) (value : Json) :
    Meets (first ++ second) value ↔ Meets first value ∧ Meets second value := by
  induction first with
  | nil => simp [meets_nil]
  | cons rule rest ih => rw [List.cons_append, meets_cons_iff, meets_cons_iff, ih, and_assoc]

theorem meets_singleton_iff (rule : SchemaRule) (value : Json) : Meets [rule] value ↔ ruleIssues rule value = [] := by
  rw [meets_cons_iff, and_iff_left (meets_nil value)]

/-! ### Rules -/

section

attribute [local simp] ruleIssues

theorem ruleIssues_kinds_eq_nil_iff (allowed : List Json.Kind) (value : Json) :
    ruleIssues (.kinds allowed) value = [] ↔ value.kind ∈ allowed := by
  simp

theorem ruleIssues_minLength_eq_nil_iff (count : Nat) (text : String) :
    ruleIssues (.minLength count) (.string text) = [] ↔ count ≤ text.length := by
  simp

theorem ruleIssues_pattern_eq_nil_iff (shape : TextPattern) (text : String) :
    ruleIssues (.pattern shape) (.string text) = [] ↔ shape.accepts text.toList = true := by
  simp

theorem ruleIssues_maximum_eq_nil_iff (bound : Int) (n : Number) :
    ruleIssues (.maximum bound) (.number n) = [] ↔ n.units ≤ bound * Binary64.one := by
  simp only [ruleIssues, ite_eq_right_iff, reduceCtorEq, imp_false, Int.not_lt]

theorem ruleIssues_minimum_eq_nil_iff (bound : Int) (n : Number) :
    ruleIssues (.minimum bound) (.number n) = [] ↔ bound * Binary64.one ≤ n.units := by
  simp only [ruleIssues, ite_eq_right_iff, reduceCtorEq, imp_false, Int.not_lt]

theorem ruleIssues_constant_eq_nil_iff (expected : Constant) (value : Json) :
    ruleIssues (.constant expected) value = [] ↔ expected.accepts value = true := by
  simp

theorem ruleIssues_options_eq_nil_iff (allowed : List String) (value : Json) :
    ruleIssues (.options allowed) value = [] ↔ ∃ text ∈ allowed, value = .string text := by
  cases value <;> simp

theorem ruleIssues_items_eq_nil_iff (schema : Schema) (items : List Json) :
    ruleIssues (.items schema) (.array items) = [] ↔ ∀ item ∈ items, Meets schema item := by
  simp [Meets]

theorem ruleIssues_members_eq_nil_iff (schema : Schema) (fields : List (String × Json)) :
    ruleIssues (.members schema) (.object fields) = [] ↔ ∀ field ∈ fields, Meets schema field.2 := by
  simp [Meets]

theorem ruleIssues_maxFields_eq_nil_iff (count : Nat) (fields : List (String × Json)) :
    ruleIssues (.maxFields count) (.object fields) = [] ↔ fields.length ≤ count := by
  simp

theorem ruleIssues_minFields_eq_nil_iff (count : Nat) (fields : List (String × Json)) :
    ruleIssues (.minFields count) (.object fields) = [] ↔ count ≤ fields.length := by
  simp

theorem ruleIssues_required_eq_nil_iff (names : List String) (fields : List (String × Json)) :
    ruleIssues (.required names) (.object fields) = [] ↔ ∀ name ∈ names, ∃ value, Json.lookup name fields = some value := by
  simp [Option.ne_none_iff_exists']

end

theorem propertyIssues_eq (properties : List (String × Schema)) (name : String) (value : Json) :
    propertyIssues properties name value = (properties.lookup name).map fun schema => issues schema value := by
  induction properties with
  | nil => rw [propertyIssues, List.lookup_nil, Option.map_none]
  | cons property rest ih =>
    obtain ⟨declared, schema⟩ := property
    rw [propertyIssues, List.lookup_cons]
    by_cases hname : declared = name
    · simp [hname]
    · rw [if_neg hname, ih, beq_false_of_ne (Ne.symm hname)]

/-- A field is one of the given properties and meets its schema. -/
def Declared (properties : List (String × Schema)) (field : String × Json) : Prop :=
  ∃ schema, properties.lookup field.1 = some schema ∧ Meets schema field.2

@[simp] theorem declared_cons_iff (name : String) (schema : Schema) (rest : List (String × Schema))
    (field : String × Json) :
    Declared ((name, schema) :: rest) field ↔
      if field.1 = name then Meets schema field.2 else Declared rest field := by
  rw [Declared, List.lookup_cons]
  by_cases hname : field.1 = name
  · simp [hname]
  · rw [if_neg hname, beq_false_of_ne hname, Declared]

theorem Declared.name_mem {properties : List (String × Schema)} {field : String × Json}
    (h : Declared properties field) : field.1 ∈ properties.map Prod.fst := by
  obtain ⟨schema, hschema, _⟩ := h
  obtain ⟨before, after, rfl, _⟩ := List.lookup_eq_some_iff.1 hschema
  simp

theorem not_declared_nil (field : String × Json) : ¬ Declared [] field := by
  rintro ⟨schema, hschema, _⟩
  cases hschema

theorem Declared.cons_cases {name : String} {schema : Schema} {rest : List (String × Schema)} {field : String × Json}
    (h : Declared ((name, schema) :: rest) field) : field.1 = name ∧ Meets schema field.2 ∨ Declared rest field := by
  rw [declared_cons_iff] at h
  by_cases hname : field.1 = name
  · rw [if_pos hname] at h
    exact .inl ⟨hname, h⟩
  · rw [if_neg hname] at h
    exact .inr h

theorem ruleIssues_closed_eq_nil_iff (properties : List (String × Schema)) (fields : List (String × Json)) :
    ruleIssues (.closed properties) (.object fields) = [] ↔ ∀ field ∈ fields, Declared properties field := by
  have hfield : ∀ field : String × Json, Declared properties field ↔
      (propertyIssues properties field.1 field.2).getD [] = [] ∧
        (propertyIssues properties field.1 field.2).isNone = false := by
    intro field
    rw [propertyIssues_eq, Declared]
    cases properties.lookup field.1 <;> simp [Meets]
  rw [ruleIssues]
  simp only [List.append_eq_nil_iff, List.flatMap_eq_nil_iff, ite_eq_left_iff, reduceCtorEq, imp_false, Decidable.not_not,
    List.isEmpty_iff, List.map_eq_nil_iff, List.filter_eq_nil_iff, Bool.not_eq_true, hfield]
  exact ⟨fun h field hmem => ⟨h.1 field hmem, h.2 field hmem⟩,
    fun h => ⟨fun field hmem => (h field hmem).1, fun field hmem => (h field hmem).2⟩⟩

theorem declaredIssues_eq_nil_iff (declared : List (String × Schema)) (fields : List (String × Json)) :
    declaredIssues declared fields = [] ↔
      ∀ property ∈ declared, ∀ value, Json.lookup property.1 fields = some value → Meets property.2 value := by
  induction declared with
  | nil => simp [declaredIssues]
  | cons property rest ih =>
    obtain ⟨name, schema⟩ := property
    rw [declaredIssues, List.append_eq_nil_iff, ih, List.forall_mem_cons]
    refine and_congr_left fun _ => ?_
    cases Json.lookup name fields <;> simp [Meets]

theorem ruleIssues_properties_eq_nil_iff (declared : List (String × Schema)) (fields : List (String × Json)) :
    ruleIssues (.properties declared) (.object fields) = [] ↔
      ∀ property ∈ declared, ∀ value, Json.lookup property.1 fields = some value → Meets property.2 value := by
  rw [ruleIssues]
  exact declaredIssues_eq_nil_iff declared fields

/-! ### Schemas -/

theorem meets_text_iff (value : Json) : Meets text value ↔ ∃ content, value = .string content := by
  rw [text, meets_singleton_iff, ruleIssues_kinds_eq_nil_iff]
  cases value <;> simp [Json.kind]

theorem meets_boolean_iff (value : Json) : Meets boolean value ↔ ∃ b, value = .bool b := by
  rw [boolean, meets_singleton_iff, ruleIssues_kinds_eq_nil_iff]
  cases value <;> simp [Json.kind]

theorem meets_someText_iff (value : Json) : Meets someText value ↔ ∃ content, content ≠ "" ∧ value = .string content := by
  rw [someText, meets_cons_iff, ← text, meets_text_iff]
  constructor
  · rintro ⟨hlength, content, rfl⟩
    rw [ruleIssues_minLength_eq_nil_iff] at hlength
    refine ⟨content, ?_, rfl⟩
    rintro rfl
    simp at hlength
  · rintro ⟨content, hcontent, rfl⟩
    refine ⟨?_, content, rfl⟩
    rw [ruleIssues_minLength_eq_nil_iff, Nat.one_le_iff_ne_zero]
    simpa using hcontent

theorem meets_shaped_iff (shape : TextPattern) (value : Json) :
    Meets (shaped shape) value ↔ ∃ content, shape.accepts content.toList = true ∧ value = .string content := by
  rw [shaped, meets_cons_iff, ← text, meets_text_iff]
  constructor
  · rintro ⟨hshape, content, rfl⟩
    exact ⟨content, (ruleIssues_pattern_eq_nil_iff shape content).1 hshape, rfl⟩
  · rintro ⟨content, hshape, rfl⟩
    exact ⟨(ruleIssues_pattern_eq_nil_iff shape content).2 hshape, content, rfl⟩

theorem meets_listOf_iff (item : Schema) (value : Json) :
    Meets (listOf item) value ↔ ∃ items, value = .array items ∧ ∀ entry ∈ items, Meets item entry := by
  rw [listOf, meets_cons_iff, meets_singleton_iff, ruleIssues_kinds_eq_nil_iff]
  cases value with
  | array items => simp [Json.kind, ruleIssues_items_eq_nil_iff]
  | _ => simp [Json.kind]

theorem meets_listOf_array_iff (item : Schema) (items : List Json) :
    Meets (listOf item) (.array items) ↔ ∀ entry ∈ items, Meets item entry := by
  simp [meets_listOf_iff]

/-- An object of members that are alike. -/
theorem meets_members_iff (schema : Schema) (value : Json) :
    Meets [.members schema, .kinds [.object]] value ↔
      ∃ fields, value = .object fields ∧ ∀ field ∈ fields, Meets schema field.2 := by
  rw [meets_cons_iff, meets_singleton_iff, ruleIssues_kinds_eq_nil_iff]
  cases value with
  | object fields =>
    rw [ruleIssues_members_eq_nil_iff]
    simp [Json.kind]
  | _ => simp [Json.kind]

theorem meets_record_iff (properties : List (String × Schema)) (required : List String) (value : Json) :
    Meets (record properties required) value ↔ ∃ fields, value = .object fields ∧
      (∀ field ∈ fields, Declared properties field) ∧
        ∀ name ∈ required, ∃ member, Json.lookup name fields = some member := by
  rw [record, meets_append_iff, meets_append_iff, meets_singleton_iff, meets_singleton_iff,
    ruleIssues_kinds_eq_nil_iff]
  cases value with
  | object fields =>
    rw [ruleIssues_closed_eq_nil_iff]
    cases required with
    | nil => simp [Json.kind, meets_nil]
    | cons name rest =>
      simp only [List.isEmpty_cons, Bool.false_eq_true, if_false, meets_singleton_iff, ruleIssues_required_eq_nil_iff]
      simp [Json.kind]
  | _ => simp [Json.kind]

/-- What a checked record holds under a name meets the schema of that name. -/
theorem Declared.meets_of_lookup {properties : List (String × Schema)} {fields : List (String × Json)} {name : String}
    {schema : Schema} {value : Json} (h : ∀ field ∈ fields, Declared properties field)
    (hvalue : Json.lookup name fields = some value) (hschema : properties.lookup name = some schema) :
    Meets schema value := by
  obtain ⟨declared, hdeclared, hmeets⟩ := h _ (Json.mem_of_lookup_eq_some hvalue)
  rw [hschema] at hdeclared
  cases hdeclared
  exact hmeets

/-- A number of the unit interval. -/
theorem meets_ratio_iff (value : Json) :
    Meets ratio value ↔ ∃ n : Number, value = .number n ∧ 0 ≤ n.units ∧ n.units ≤ Binary64.one := by
  rw [ratio, meets_cons_iff, meets_cons_iff, meets_singleton_iff, ruleIssues_kinds_eq_nil_iff]
  cases value with
  | number n =>
    rw [ruleIssues_maximum_eq_nil_iff, ruleIssues_minimum_eq_nil_iff, Int.one_mul, Int.zero_mul]
    constructor
    · rintro ⟨hhigh, hlow, _⟩
      exact ⟨n, rfl, hlow, hhigh⟩
    · rintro ⟨_, hnumber, hlow, hhigh⟩
      cases hnumber
      exact ⟨hhigh, hlow, by simp [Json.kind]⟩
  | _ =>
    constructor
    · rintro ⟨_, _, hkind⟩
      simp [Json.kind] at hkind
    · rintro ⟨_, hnumber, _⟩
      cases hnumber

theorem meets_ratio_float_iff (x : Binary64) : Meets ratio (.number (.float x)) ↔ x.InUnit := by
  rw [meets_ratio_iff]
  constructor
  · rintro ⟨_, hnumber, hunit⟩
    cases hnumber
    exact hunit
  · intro hunit
    exact ⟨.float x, rfl, hunit⟩

end Schema

end GuardedPlan
