import GuardedPlan.Proofs.Json.Adjusted
import GuardedPlan.Proofs.Plan.Checked
import GuardedPlan.Proofs.Plan.RoundTrip

/-!
# Encoding undoes decoding

A value that is read as a plan is the published form of the plan, but for the thresholds of fuzzy checks: a plan keeps them in floating-point form, and the value may have had them as integers. An alternative of an operation or a check is closed, so it holds what its reader takes and nothing that would be dropped.
-/

namespace GuardedPlan

open Fields Schema

/-! ### Operations -/

/-- A table of texts that ascends is read as it is. -/
theorem Decode.table_texts_eq_ok {value : Json} {table : Table String} (hcanonical : value.Canonical)
    (hread : Decode.table Decode.text value = .ok table) : value = .object (table.map Json.string).entries := by
  cases value with
  | object fields =>
    obtain ⟨entries, hentries, rfl⟩ := Except.map_eq_ok_iff.1 hread
    have hsame : entries.map (fun entry => (entry.1, Json.string entry.2)) = fields.map id := by
      refine map_eq_of_mapM hentries fun field _ entry hentry => ?_
      obtain ⟨content, hcontent, rfl⟩ := Except.map_eq_ok_iff.1 hentry
      rw [id, ← text_eq_ok_iff.1 hcontent]
    rw [List.map_id] at hsame
    have hascending : Ascending entries := by
      have hfields := hcanonical.ascending
      rwa [Ascending, ← hsame, List.pairwise_map] at hfields
    have htable : Table.ofList entries = ⟨entries, hascending⟩ := Table.ofList_entries ⟨entries, hascending⟩
    rw [htable, ← hsame]
    rfl
  | _ => cases hread

/-- An operation that was read has the tag and the members of the object, and the object has no others. -/
theorem Op.members_of_decode {fields : List (String × Json)} {row : Alternative} {name : String} {op : Op}
    (hcanonical : (Json.object fields).Canonical) (hfits : Fits "op" row name fields) (hrow : row ∈ alternatives)
    (hread : decode (.object fields) = .ok op) :
    op.tag = name ∧ op.members.map Prod.fst = row.2.map Prod.fst ∧
      ∀ member ∈ op.members, Json.lookup member.1 fields = some member.2.canonical := by
  have hname := hfits.named
  obtain ⟨rest, htagged, hrest⟩ := Tagged.exists_ofJson hfits.tagged "Op"
  rw [decode, htagged] at hread
  simp only [alternatives, List.mem_cons, List.not_mem_nil, or_false] at hrow
  rcases hrow with rfl | rfl | rfl
  · obtain rfl := List.mem_singleton.1 hname
    simp only [bind, Except.bind, Tagged.read_text_eq_ok_iff] at hread
    obtain ⟨command, hcommand, rfl⟩ := hread
    exact ⟨rfl, rfl, by simp [members, ← hrest, hcommand]⟩
  · simp only [List.mem_cons, List.not_mem_nil, or_false] at hname
    rcases hname with rfl | rfl
    · simp only [bind, Except.bind, Tagged.read_texts_eq_ok_iff] at hread
      obtain ⟨path, content, hpath, hcontent, rfl⟩ := hread
      exact ⟨rfl, rfl, by simp [members, ← hrest, hpath, hcontent]⟩
    · simp only [bind, Except.bind, Tagged.read_texts_eq_ok_iff] at hread
      obtain ⟨path, content, hpath, hcontent, rfl⟩ := hread
      exact ⟨rfl, rfl, by simp [members, ← hrest, hpath, hcontent]⟩
  · obtain rfl := List.mem_singleton.1 hname
    simp only [bind, Except.bind, Tagged.read_members_eq_ok_iff, value_seq_eq_ok_iff, value_map_eq_ok_iff,
      value_required_eq_ok_iff, Decode.text_eq_ok_iff, exists_eq_right] at hread
    obtain ⟨_, vars, ⟨_, template, ⟨path, hpath, rfl⟩, htemplate, rfl⟩, ⟨given, hgiven, htable⟩, rfl⟩ := hread
    rw [hrest "vars" (by decide)] at hgiven
    have hvars := Decode.table_texts_eq_ok (hcanonical.lookup hgiven) htable
    exact ⟨rfl, rfl, by simp [members, ← hrest "path", ← hrest "template", hpath, htemplate, hgiven, hvars]⟩

theorem Op.encode_of_decode {value : Json} {op : Op} (hcanonical : value.Canonical) (hmeets : Meets Schema.op value)
    (hread : decode value = .ok op) : op.encode.canonical = value := by
  obtain ⟨fields, rfl, row, hrow, name, hfits⟩ := exists_fits hmeets
  obtain ⟨htag, hnames, hheld⟩ := members_of_decode hcanonical hfits hrow hread
  rw [encode, Json.canonical_object, Json.object.injEq]
  refine Json.canonicalMembers_eq_of_lookup hcanonical.ascending op.names_members (fun field hfield => ?_) ?_
  · rw [List.map_cons, hnames]
    exact (hfits.declared field hfield).name_mem
  · rw [List.forall_mem_cons, htag]
    exact ⟨hfits.tagged, hheld⟩

/-! ### Checks -/

/-- A threshold in the unit interval is read as the same number in floating-point form. -/
theorem Number.floated_of_ratio {n : Number} (hmeets : Meets ratio (.number n)) : n.floated = .float n.toBinary64 := by
  obtain ⟨_, hnumber, hlow, hhigh⟩ := (meets_ratio_iff _).1 hmeets
  cases hnumber
  rw [Number.floated, if_pos (Number.units_toBinary64 hlow hhigh)]

/-- The same for checks, whose threshold stands in floating-point form among the members. -/
theorem Check.members_of_decode {fields : List (String × Json)} {row : Alternative} {name : String} {check : Check}
    (hfits : Fits "kind" row name fields) (hrow : row ∈ alternatives) (hread : decode (.object fields) = .ok check) :
    check.kind = name ∧ check.members.map Prod.fst = row.2.map Prod.fst ∧
      ∀ member ∈ check.members, ((Json.lookup member.1 fields).map fun value =>
        if member.1 = "threshold" then value.adjust Json.floated [] else value) = some member.2.canonical := by
  have hname := hfits.named
  obtain ⟨rest, htagged, hrest⟩ := Tagged.exists_ofJson hfits.tagged "Check"
  rw [decode, htagged] at hread
  simp only [alternatives, List.mem_cons, List.not_mem_nil, or_false] at hrow
  rcases hrow with rfl | rfl | rfl | rfl | rfl | rfl | rfl
  · simp only [List.mem_cons, List.not_mem_nil, or_false] at hname
    rcases hname with rfl | rfl
    · simp only [bind, Except.bind, Tagged.read_text_eq_ok_iff] at hread
      obtain ⟨path, hpath, rfl⟩ := hread
      exact ⟨rfl, rfl, by simp [members, ← hrest, hpath]⟩
    · simp only [bind, Except.bind, Tagged.read_text_eq_ok_iff] at hread
      obtain ⟨path, hpath, rfl⟩ := hread
      exact ⟨rfl, rfl, by simp [members, ← hrest, hpath]⟩
  · simp only [List.mem_cons, List.not_mem_nil, or_false] at hname
    rcases hname with rfl | rfl
    · simp only [bind, Except.bind, Tagged.read_texts_eq_ok_iff] at hread
      obtain ⟨path, content, hpath, hcontent, rfl⟩ := hread
      exact ⟨rfl, rfl, by simp [members, ← hrest, hpath, hcontent]⟩
    · simp only [bind, Except.bind, Tagged.read_texts_eq_ok_iff] at hread
      obtain ⟨path, content, hpath, hcontent, rfl⟩ := hread
      exact ⟨rfl, rfl, by simp [members, ← hrest, hpath, hcontent]⟩
  · obtain rfl := List.mem_singleton.1 hname
    simp only [bind, Except.bind, Tagged.read_texts_eq_ok_iff] at hread
    obtain ⟨directory, route, hdirectory, hroute, rfl⟩ := hread
    exact ⟨rfl, rfl, by simp [members, ← hrest, hdirectory, hroute]⟩
  · obtain rfl := List.mem_singleton.1 hname
    simp only [bind, Except.bind, Tagged.read_text_eq_ok_iff] at hread
    obtain ⟨command, hcommand, rfl⟩ := hread
    exact ⟨rfl, rfl, by simp [members, ← hrest, hcommand]⟩
  · obtain rfl := List.mem_singleton.1 hname
    simp only [bind, Except.bind, Tagged.read_members_eq_ok_iff, value_seq_eq_ok_iff, value_map_eq_ok_iff,
      value_required_eq_ok_iff, Decode.text_eq_ok_iff, exists_eq_right] at hread
    obtain ⟨_, allow, ⟨_, glob, ⟨directory, hdirectory, rfl⟩, hglob, rfl⟩, ⟨given, hgiven, hlist⟩, rfl⟩ := hread
    have hallow := Decode.list_text_eq_ok hlist
    exact ⟨rfl, rfl, by simp [members, ← hrest, hdirectory, hglob, hgiven, hallow]⟩
  · obtain rfl := List.mem_singleton.1 hname
    simp only [bind, Except.bind, Tagged.read_texts_eq_ok_iff] at hread
    obtain ⟨path, title, hpath, htitle, rfl⟩ := hread
    exact ⟨rfl, rfl, by simp [members, ← hrest, hpath, htitle]⟩
  · obtain rfl := List.mem_singleton.1 hname
    obtain ⟨stated, hstated⟩ := hfits.present "gate" (by simp)
    simp only [bind, Except.bind, Tagged.read_members_eq_ok_iff, value_seq_eq_ok_iff, value_map_eq_ok_iff,
      value_required_eq_ok_iff, value_defaulted_eq_ok_iff, Decode.text_eq_ok_iff, Decode.float_eq_ok_iff,
      Decode.boolean_eq_ok_iff, exists_eq_right] at hread
    obtain ⟨_, gate, ⟨_, _, ⟨_, content, ⟨path, hpath, rfl⟩, hcontent, rfl⟩, ⟨_, hgiven, n, rfl, rfl⟩, rfl⟩,
      hgate, rfl⟩ := hread
    -- The schema asks for the gate, so it is never the default that was read.
    have hstates : Json.lookup "gate" rest = some (.bool gate) := by
      rcases hgate with ⟨hnone, _⟩ | hbool
      · rw [hrest "gate" (by decide), hstated] at hnone
        cases hnone
      · exact hbool
    rw [hrest "threshold" (by decide)] at hgiven
    have hratio : Meets ratio (.number n) := Declared.meets_of_lookup hfits.declared hgiven rfl
    have hfloated : Json.floated (.number n) = .number (.float n.toBinary64) := by
      rw [Json.floated, Number.floated_of_ratio hratio]
    exact ⟨rfl, rfl, by
      simp [members, ← hrest "path", ← hrest "text", ← hrest "gate", hpath, hcontent, hstates, hgiven, Json.adjust,
        hfloated]⟩

theorem Check.encode_of_decode {value : Json} {check : Check} (hcanonical : value.Canonical)
    (hmeets : Meets Schema.check value) (hread : decode value = .ok check) :
    check.encode.canonical = value.adjust Json.floated [.member "threshold"] := by
  obtain ⟨fields, rfl, row, hrow, name, hfits⟩ := exists_fits hmeets
  obtain ⟨hkind, hnames, hheld⟩ := members_of_decode hfits hrow hread
  refine Json.canonical_object_eq_adjust hcanonical.ascending check.names_members (fun field hfield => ?_) ?_
  · rw [List.map_cons, hnames]
    exact (hfits.declared field hfield).name_mem
  · rw [List.forall_mem_cons, hkind, hfits.tagged]
    exact ⟨rfl, hheld⟩

/-! ### Steps and plans -/

/-- The items of a list that was read, when each item is encoded again as it was or adjusted. -/
theorem exists_items_of_required {α : Type} {members : List (String × Json)} {name : String} {schema : Schema}
    {decode : Json → Decoded α} {encode : α → Json} {change : Json → Json} {given : List α}
    (hcanonical : (Json.object members).Canonical) (hmeets : ∀ value, Json.lookup name members = some value →
      Meets (listOf schema) value)
    (hread : (required name (Decode.list decode) members).value = .ok given)
    (hitem : ∀ item result, item.Canonical → Meets schema item → decode item = .ok result →
      (encode result).canonical = change item) :
    ∃ items, Json.lookup name members = some (.array items) ∧
      (Json.array (given.map encode)).canonical = .array (items.map change) := by
  obtain ⟨value, hvalue, hlist⟩ := value_required_eq_ok_iff.1 hread
  obtain ⟨items, rfl, hitems⟩ := Decode.list_eq_ok_iff.1 hlist
  have hlisted := (meets_listOf_array_iff schema items).1 (hmeets _ hvalue)
  have hcanonicalItems : ∀ item ∈ items, item.Canonical := fun item hmem => (hcanonical.lookup hvalue).item hmem
  have hsame : given.map (fun result => (encode result).canonical) = items.map change :=
    map_eq_of_mapM hitems fun item hmem result hresult =>
      hitem item result (hcanonicalItems item hmem) (hlisted item hmem) hresult
  refine ⟨items, hvalue, ?_⟩
  rw [Json.canonical_array, List.map_map, ← hsame]
  rfl

theorem Step.encode_of_decode {value : Json} {step : Step} (hcanonical : value.Canonical)
    (hmeets : Meets planStep value) (hread : decode value = .ok step) :
    step.encode.canonical = value.adjust Json.floated [.member "checks", .items, .member "threshold"] := by
  obtain ⟨fields, rfl, hfields, _⟩ := (meets_record_iff _ _ _).1 hmeets
  obtain ⟨hid, hrequires, hops, hchecks, hclaims, hdecisions⟩ := decode_object_eq_ok_iff.1 hread
  obtain ⟨ops, hopsHeld, hopsEncoded⟩ := exists_items_of_required hcanonical
    (fun given hgiven => Declared.meets_of_lookup hfields hgiven rfl) hops
    (fun item op => Op.encode_of_decode)
  obtain ⟨checks, hchecksHeld, hchecksEncoded⟩ := exists_items_of_required hcanonical
    (fun given hgiven => Declared.meets_of_lookup hfields hgiven rfl) hchecks
    (fun item check => Check.encode_of_decode)
  refine Json.canonical_object_eq_adjust hcanonical.ascending (by simp)
    (fun field hfield => (hfields field hfield).name_mem) ?_
  simp [lookup_of_required_text hid, lookup_of_required_texts hrequires, lookup_of_required_texts hclaims,
    lookup_of_required_texts hdecisions, hopsHeld, hopsEncoded, hchecksHeld, hchecksEncoded, Json.adjust_items,
    -Json.canonical_array]

namespace Plan

def thresholds : List Descent :=
  [.member "steps", .items, .member "checks", .items, .member "threshold"]

theorem encode_of_decode {value : Json} {plan : Plan} (hcanonical : value.Canonical)
    (hmeets : Meets Schema.plan value) (hread : decode value = .ok plan) :
    plan.encode.canonical = value.adjust Json.floated thresholds := by
  obtain ⟨fields, rfl, hfields, _⟩ := (meets_record_iff _ _ _).1 hmeets
  obtain ⟨hlang, htarget, hversion, hhash, hsteps⟩ := decode_object_eq_ok_iff.1 hread
  obtain ⟨steps, hstepsHeld, hstepsEncoded⟩ := exists_items_of_required hcanonical
    (fun given hgiven => Declared.meets_of_lookup hfields hgiven rfl) hsteps
    (fun item step => Step.encode_of_decode)
  refine Json.canonical_object_eq_adjust hcanonical.ascending (by simp)
    (fun field hfield => (hfields field hfield).name_mem) ?_
  simp [lookup_of_required_text hlang, lookup_of_required_text htarget, lookup_of_required_text hversion,
    lookup_of_required_text hhash, hstepsHeld, hstepsEncoded, Json.adjust_items, -Json.canonical_array]

/-- Reading undoes publishing for every plan that is well formed, and publishing undoes reading, but that a threshold may turn into the same number in floating-point form. -/
theorem ofJson_encode_inverse :
    (∀ plan : Plan, plan.WellFormed → ofJson plan.encode.canonical = .ok plan) ∧
      (∀ (value : Json) (plan : Plan), ofJson value.canonical = .ok plan →
        plan.encode.canonical = value.canonical.adjust Json.floated thresholds) ∧
      ∀ n : Number, n.floated.units = n.units := by
  refine ⟨fun plan hwell => plan.ofJson_encode.1 hwell, fun value plan h => ?_, Number.units_floated⟩
  obtain ⟨hmeets, hread⟩ := ofJson_eq_ok_iff.1 h
  exact encode_of_decode value.canonical_canonical hmeets hread

end Plan

namespace Sample

/-- A plan with a fuzzy check. -/
def resembling : Plan where
  lang := Plan.language
  target := "t"
  presetVersion := "1"
  specHash := "sha256:abd20ee2df31859ca9b13066e2f6e76c9b4c405fd6f27416e7207824c7887caf"
  steps := [{ id := "s", checks := [.docResembles "a/b" "x" ⟨false, 4503599627370496, 1022⟩ true] }]

/-- The plan as somebody may write it, with a threshold that is an integer. -/
def resemblingValue : Json :=
  .object
    [("lang", .string Plan.language), ("target", .string "t"), ("presetVersion", .string "1"),
      ("specHash", .string "sha256:abd20ee2df31859ca9b13066e2f6e76c9b4c405fd6f27416e7207824c7887caf"),
      ("steps", .array [.object
        [("id", .string "s"), ("requires", .array []), ("ops", .array []),
          ("checks", .array [.object
            [("kind", .string "doc.contains_fuzzy"), ("path", .string "a/b"), ("text", .string "x"),
              ("threshold", .number (.int 1)), ("gate", .bool true)]]),
          ("claims", .array []), ("decisions", .array [])]])]

theorem wellFormed_resembling : resembling.WellFormed where
  lang := rfl
  target := by decide
  version := by decide
  hash := by decide
  ids := by decide
  bounded := by
    simp only [resembling, List.forall_mem_singleton, Check.Bounded]
    exact Binary64.inUnit_of_le (show _ ≤ Nat.pow 2 52 by decide) (by decide)

theorem ofJson_resemblingValue : Plan.ofJson resemblingValue.canonical = .ok resembling := by
  have hread : (Plan.ofJson resemblingValue.canonical).toOption = some resembling := by decide +kernel
  cases h : Plan.ofJson resemblingValue.canonical with
  | ok plan => simpa [h, Except.toOption] using hread
  | error fault => simp [h, Except.toOption] at hread

end Sample

theorem Plan.ofJson_encode_inverse_resembling :
    (Sample.resembling.WellFormed ∧ ofJson Sample.resembling.encode.canonical = .ok Sample.resembling) ∧
      (ofJson Sample.resemblingValue.canonical = .ok Sample.resembling ∧
        Sample.resembling.encode.canonical = Sample.resemblingValue.canonical.adjust Json.floated thresholds) ∧
      (Number.int 1).floated.units = (Number.int 1).units := by
  obtain ⟨hread, hpublished, hnumber⟩ := ofJson_encode_inverse
  exact ⟨⟨Sample.wellFormed_resembling, hread _ Sample.wellFormed_resembling⟩,
    ⟨Sample.ofJson_resemblingValue, hpublished _ _ Sample.ofJson_resemblingValue⟩, hnumber _⟩

end GuardedPlan
