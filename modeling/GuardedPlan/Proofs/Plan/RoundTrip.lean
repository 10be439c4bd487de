import GuardedPlan.Proofs.Decode.Reading
import GuardedPlan.Proofs.Plan.Shape

/-!
# Reading back the published form of plans

Decoding undoes encoding, also after the fields of every object were sorted on the way: a decoder finds fields by name, and the names of an encoded record do not repeat.
-/

namespace GuardedPlan

open Fields

/-! ### Lists and tables -/

theorem mapM_map_eq_ok {ε α β : Type} {decode : β → Except ε α} {encode : α → β} {items : List α}
    (h : ∀ item ∈ items, decode (encode item) = .ok item) : (items.map encode).mapM decode = .ok items := by
  induction items with
  | nil => rfl
  | cons item rest ih =>
    exact mapM_cons_eq_ok_iff.2 ⟨item, rest, h item List.mem_cons_self,
      ih fun other hother => h other (List.mem_cons_of_mem item hother), rfl⟩

theorem Decode.list_strings (texts : List String) : Decode.list Decode.text (Json.strings texts) = .ok texts :=
  mapM_map_eq_ok fun _ _ => rfl

theorem Decode.table_texts (table : Table String) :
    Decode.table Decode.text (.object (table.map Json.string).entries) = .ok table := by
  have hentries : (table.map Json.string).entries.mapM
      (fun field => (Decode.text field.2).map fun value => (field.1, value)) = .ok table.entries :=
    mapM_map_eq_ok fun _ _ => rfl
  rw [Decode.table, hentries]
  exact congrArg Except.ok table.ofList_entries

/-! ### Operations and checks -/

theorem Op.decode_encode (op : Op) : decode op.encode.canonical = .ok op := by
  obtain ⟨rest, htagged, hlookup⟩ := Tagged.ofJson_canonical op.names_members "Op" op.tag
  rw [decode, encode, Json.canonical_object, htagged]
  cases op with
  | writeTemplate path template vars =>
    simp only [tag, bind, Except.bind, Tagged.read_members_eq_ok_iff]
    simp [hlookup, members, Json.lookup, Decode.text, Decode.table_texts]
  | _ =>
    simp only [tag, bind, Except.bind, Tagged.read_members_eq_ok_iff]
    simp [hlookup, members, Json.lookup, Decode.text]

theorem Check.decode_encode (check : Check) : decode check.encode.canonical = .ok check := by
  obtain ⟨rest, htagged, hlookup⟩ := Tagged.ofJson_canonical check.names_members "Check" check.kind
  rw [decode, encode, Json.canonical_object, htagged]
  cases check with
  | trackedOnly directory glob allow =>
    simp only [kind, bind, Except.bind, Tagged.read_members_eq_ok_iff]
    simp [hlookup, members, Json.lookup, Decode.text, Decode.list_strings]
  | docResembles path text threshold gate =>
    simp only [kind, bind, Except.bind, Tagged.read_members_eq_ok_iff]
    simp [hlookup, members, Json.lookup, Decode.text, Decode.float, Decode.boolean, Number.toBinary64]
  | _ =>
    simp only [kind, bind, Except.bind, Tagged.read_members_eq_ok_iff]
    simp [hlookup, members, Json.lookup, Decode.text]

/-! ### Steps and plans -/

theorem Step.decode_encode (step : Step) : decode step.encode.canonical = .ok step := by
  have hops : Decode.list Op.decode (Json.array (step.ops.map Op.encode)).canonical = .ok step.ops := by
    rw [Json.canonical_array, List.map_map]
    exact mapM_map_eq_ok fun op _ => op.decode_encode
  have hchecks : Decode.list Check.decode (Json.array (step.checks.map Check.encode)).canonical = .ok step.checks := by
    rw [Json.canonical_array, List.map_map]
    exact mapM_map_eq_ok fun check _ => check.decode_encode
  rw [decode, encode, Json.canonical_object, record_object_eq_ok_iff]
  simp [Json.lookup_canonicalMembers, Json.lookup, Decode.text, Decode.list_strings, hops, hchecks, -Json.canonical_array]

/-- Decoding undoes encoding for every plan, whether or not it meets the schema. -/
theorem Plan.decode_encode (plan : Plan) : decode plan.encode.canonical = .ok plan := by
  have hsteps : Decode.list Step.decode (Json.array (plan.steps.map Step.encode)).canonical = .ok plan.steps := by
    rw [Json.canonical_array, List.map_map]
    exact mapM_map_eq_ok fun step _ => step.decode_encode
  rw [decode, encode, Json.canonical_object, record_object_eq_ok_iff]
  simp [Json.lookup_canonicalMembers, Json.lookup, Decode.text, hsteps, -Json.canonical_array]

/-- A plan in canonical form is read back exactly when it is well formed, and is refused for its shape otherwise. -/
theorem Plan.ofJson_encode (plan : Plan) :
    (plan.WellFormed → ofJson plan.encode.canonical = .ok plan) ∧
      (¬ plan.WellFormed → ∃ issue rest, ofJson plan.encode.canonical = .error (.shape (issue :: rest))) := by
  have hshape := plan.meets_encode_iff
  rw [Schema.Meets] at hshape
  rw [ofJson]
  cases hissues : Schema.issues Schema.plan plan.encode.canonical with
  | nil =>
    rw [hissues, eq_self, true_iff] at hshape
    simp [hshape, plan.decode_encode, hshape.lang]
  | cons issue rest =>
    have hill : ¬ plan.WellFormed := by
      rw [← hshape, hissues]
      exact List.cons_ne_nil issue rest
    exact ⟨fun hwell => absurd hwell hill, fun _ => ⟨issue, rest, rfl⟩⟩

end GuardedPlan
