import GuardedPlan.Document
import GuardedPlan.Proofs.Decode.Reading
import GuardedPlan.Proofs.Schema.Agreement
import GuardedPlan.Proofs.Schema.Meets

/-!
# Specs that were checked

Specs that meet a schema are read: there is one agreement for each section, then one for the spec. Both versions share the first fields and differ in the sections that came later: version 1 has none of them, and its schema keeps them out by being closed, so that their readers are never asked.

What the schemas of specs promise of a spec that was read, beyond its type: the target and the ids of steps are not empty, and the thresholds of the documentation section are numbers of the unit interval. The schema says nothing about the ensures of a step, which stay raw values.
-/

namespace GuardedPlan

open Schema

/-! ### Sections of both versions -/

theorem Project.readBy : ReadBy Schema.project decode :=
  .record (.seq (.map (.required (by simp) readBy_someText)) (.optional readBy_text))

theorem ComponentLibrary.readBy : ReadBy ui decode :=
  .record (.seq (.map (.required (by simp) readBy_someText)) (.defaulted readBy_someText.list))

theorem AuthoredStep.readBy : ReadBy specStep decode := by
  refine .record (.seq (.seq (.seq (.seq (.seq (.map ?id) ?requires) ?actions) ?ensures) ?claims) ?decisions)
  case id => exact .required (by simp) (readBy_shaped .identifier)
  case requires => exact .defaulted (readBy_shaped .identifier).list
  case actions => exact .defaulted (readBy_any _).list
  case ensures => exact .defaulted (readBy_any _).list
  case claims => exact .defaulted readBy_text.list
  case decisions => exact .defaulted readBy_text.list

/-! ### Sections of version 2 -/

theorem Invariant.readBy : ReadBy (record [("id", identifier), ("text", Schema.text)] ["id", "text"]) decode :=
  .record (.seq (.map (.required (by simp) (readBy_shaped .identifier))) (.required (by simp) readBy_text))

theorem Intent.readBy : ReadBy Schema.intent decode := by
  refine .record (.seq (.seq (.map ?summary) ?invariants) ?nonGoals)
  case summary => exact .required (by simp) readBy_text
  case invariants => exact .defaulted Invariant.readBy.list
  case nonGoals => exact .defaulted readBy_text.list

theorem SectionDemand.readBy : ReadBy (record [("path", someText), ("title", someText)] ["path", "title"]) decode :=
  .record (.seq (.map (.required (by simp) readBy_someText)) (.required (by simp) readBy_someText))

theorem TextDemand.readBy :
    ReadBy (record [("path", someText), ("text", someText), ("match", [.options ["literal", "fuzzy"]]),
      ("threshold", ratio), ("gate", Schema.boolean)] ["path", "text"]) decode := by
  refine .record (.seq (.seq (.seq (.seq (.map ?path) ?text) ?mode) ?threshold) ?gate)
  case path => exact .required (by simp) readBy_someText
  case text => exact .required (by simp) readBy_someText
  case mode => exact .defaulted (readBy_constant (by decide))
  case threshold => exact .optional readBy_ratio
  case gate => exact .optional readBy_boolean

theorem Docs.readBy : ReadBy Schema.docs decode := by
  refine .record (.seq (.seq (.map ?requiredFiles) ?sections) ?expect)
  case requiredFiles => exact .defaulted readBy_someText.list
  case sections => exact .defaulted SectionDemand.readBy.list
  case expect => exact .defaulted TextDemand.readBy.list

theorem Effects.readBy : ReadBy Schema.effects decode :=
  .record (.seq (.map (.defaulted readBy_someText.list)) (.defaulted (readBy_constant (by decide))))

theorem Artifact.readBy : ReadBy (record [("path", someText), ("mustWrite", boolean)] ["path"]) decode :=
  .record (.seq (.map (.required (by simp) readBy_someText)) (.defaulted readBy_boolean))

theorem Assumption.readBy : ReadBy assumption decode := by
  refine .record (.seq (.seq (.map ?id) ?text) ?status)
  case id => exact .required (by simp) (readBy_shaped .identifier)
  case text => exact .required (by simp) readBy_text
  case status => exact .required (by simp) (readBy_constant (by decide))

theorem Decision.readBy : ReadBy decision decode := by
  unfold decode fields
  refine .record (.seq (.seq (.seq (.seq (.seq (.seq (.seq (.map ?id) ?question) ?answer) ?rationale) ?status)
    ?confidence) ?evidence) ?parent)
  case id => exact .required (by simp) (readBy_shaped .identifier)
  case question => exact .required (by simp) readBy_text
  case answer => exact .required (by simp) readBy_text
  case rationale => exact .required (by simp) readBy_text
  case status => exact .required (by simp) (readBy_constant (by decide))
  case confidence => exact .required (by simp) readBy_ratio
  case evidence => exact .defaulted readBy_text.list
  case parent => exact .defaulted readBy_textOrNull

/-! ### Specs -/

/-- A spec is read whatever the schema says of the later sections, as long as their readers agree with it. -/
theorem Spec.readBy_record (version : Nat) (later : List (String × Schema)) {needed : List String}
    (hneeded : ["version", "target", "project"] ⊆ needed)
    (hintent : ReadBy (within later "intent") Intent.decode) (hdocs : ReadBy (within later "docs") Docs.decode)
    (heffects : ReadBy (within later "effects") Effects.decode)
    (hartifacts : ReadBy (within later "artifacts")
      (decodeSection (.defaulted "required" [] (Decode.list Artifact.decode)) "an artifacts section"))
    (hassumptions : ReadBy (within later "assumptions") (Decode.list Assumption.decode))
    (hdecisions : ReadBy (within later "decisions") (Decode.list Decision.decode)) :
    ReadBy (record (commonProperties version ++ later) needed) decode := by
  refine .record (.seq (.seq (.seq (.seq (.seq (.seq (.seq (.seq (.seq (.seq (.seq (.seq (.seq (.map ?version) ?target)
    ?project) ?workspace) ?ui) ?routes) ?quality) ?steps) (.optional hintent)) (.optional hdocs)) (.optional heffects))
    (.optional hartifacts)) (.defaulted hassumptions)) (.defaulted hdecisions))
  case version => exact .required (hneeded (by simp)) (readBy_integer version)
  case target => exact .required (hneeded (by simp)) readBy_someText
  case project => exact .required (hneeded (by simp)) Project.readBy
  case workspace => exact .optional (.record (.required (by simp) readBy_someText))
  case ui => exact .optional ComponentLibrary.readBy
  case routes => exact .defaulted (readBy_shaped .rooted).list
  case quality => exact .optional (.record (.defaulted readBy_someText.list))
  case steps => exact .optional AuthoredStep.readBy.list

theorem Spec.readBy_specV1 : ReadBy specV1 decode :=
  readBy_record 1 [] (by simp) readBy_nothing readBy_nothing readBy_nothing readBy_nothing
    readBy_nothing readBy_nothing

theorem Spec.readBy_specV2 : ReadBy specV2 decode := by
  refine readBy_record 2 _ (by simp) Intent.readBy Docs.readBy Effects.readBy ?_ Assumption.readBy.list
    Decision.readBy.list
  exact .record (.defaulted Artifact.readBy.list)

/-! ### What the type does not show -/

open Fields

namespace TextDemand

theorem decode_object_eq_ok_iff {members : List (String × Json)} {demand : TextDemand} :
    decode (.object members) = .ok demand ↔
      (required "path" Decode.text members).value = .ok demand.path ∧
        (required "text" Decode.text members).value = .ok demand.text ∧
        (defaulted "match" .literal (Decode.constant MatchMode.named) members).value = .ok demand.mode ∧
        (optional "threshold" Decode.float members).value = .ok demand.threshold ∧
        (optional "gate" Decode.boolean members).value = .ok demand.gate := by
  rw [decode, record_object_eq_ok_iff]
  simp only [value_seq_eq_ok_iff, value_map_eq_ok_iff]
  constructor
  · rintro ⟨_, _, ⟨_, _, ⟨_, _, ⟨_, _, ⟨_, hpath, rfl⟩, htext, rfl⟩, hmode, rfl⟩, hthreshold, rfl⟩, hgate, rfl⟩
    exact ⟨hpath, htext, hmode, hthreshold, hgate⟩
  · rintro ⟨hpath, htext, hmode, hthreshold, hgate⟩
    exact ⟨_, _, ⟨_, _, ⟨_, _, ⟨_, _, ⟨_, hpath, rfl⟩, htext, rfl⟩, hmode, rfl⟩, hthreshold, rfl⟩, hgate, rfl⟩

def schema : Schema :=
  record
    [("path", someText), ("text", someText), ("match", [.options ["literal", "fuzzy"]]), ("threshold", ratio),
      ("gate", Schema.boolean)]
    ["path", "text"]

theorem inUnit_of_decode {value : Json} {demand : TextDemand} (hmeets : Meets schema value)
    (hread : decode value = .ok demand) {threshold : Binary64} (hthreshold : demand.threshold = some threshold) :
    threshold.InUnit := by
  obtain ⟨fields, rfl, hfields, _⟩ := (meets_record_iff _ _ _).1 hmeets
  have hvalue := (decode_object_eq_ok_iff.1 hread).2.2.2.1
  rw [hthreshold, value_optional_eq_ok_iff] at hvalue
  rcases hvalue with ⟨_, hnone⟩ | ⟨given, hgiven, hfloat⟩
  · cases hnone
  · have hratio : Meets ratio given := Declared.meets_of_lookup hfields hgiven rfl
    obtain ⟨n, rfl, hlow, hhigh⟩ := (meets_ratio_iff given).1 hratio
    cases hfloat
    exact Number.inUnit_toBinary64 hlow hhigh

end TextDemand

namespace Docs

theorem decode_object_eq_ok_iff {members : List (String × Json)} {docs : Docs} :
    decode (.object members) = .ok docs ↔
      (defaulted "requiredFiles" [] (Decode.list Decode.text) members).value = .ok docs.requiredFiles ∧
        (defaulted "sections" [] (Decode.list SectionDemand.decode) members).value = .ok docs.sections ∧
        (defaulted "expect" [] (Decode.list TextDemand.decode) members).value = .ok docs.expect := by
  rw [decode, record_object_eq_ok_iff]
  simp only [value_seq_eq_ok_iff, value_map_eq_ok_iff]
  constructor
  · rintro ⟨_, _, ⟨_, _, ⟨_, hfiles, rfl⟩, hsections, rfl⟩, hexpect, rfl⟩
    exact ⟨hfiles, hsections, hexpect⟩
  · rintro ⟨hfiles, hsections, hexpect⟩
    exact ⟨_, _, ⟨_, _, ⟨_, hfiles, rfl⟩, hsections, rfl⟩, hexpect, rfl⟩

theorem inUnit_of_decode {value : Json} {docs : Docs} (hmeets : Meets Schema.docs value)
    (hread : decode value = .ok docs) {demand : TextDemand} (hdemand : demand ∈ docs.expect) {threshold : Binary64}
    (hthreshold : demand.threshold = some threshold) : threshold.InUnit := by
  obtain ⟨fields, rfl, hfields, _⟩ := (meets_record_iff _ _ _).1 hmeets
  rcases value_defaulted_eq_ok_iff.1 (decode_object_eq_ok_iff.1 hread).2.2 with ⟨_, hnone⟩ | ⟨given, hgiven, hlist⟩
  · rw [hnone] at hdemand
    cases hdemand
  · have hlisted : Meets (listOf TextDemand.schema) given := Declared.meets_of_lookup hfields hgiven rfl
    obtain ⟨items, rfl, hitems⟩ := (meets_listOf_iff _ _).1 hlisted
    obtain ⟨item, hitem, hread⟩ := exists_of_mem_mapM hlist hdemand
    exact TextDemand.inUnit_of_decode (hitems item hitem) hread hthreshold

end Docs

namespace AuthoredStep

theorem decode_object_eq_ok_iff {members : List (String × Json)} {step : AuthoredStep} :
    decode (.object members) = .ok step ↔
      (required "id" Decode.text members).value = .ok step.id ∧
        (defaulted "requires" [] (Decode.list Decode.text) members).value = .ok step.requires ∧
        (defaulted "actions" [] (Decode.list Decode.any) members).value = .ok step.actions ∧
        (defaulted "ensures" [] (Decode.list Decode.any) members).value = .ok step.ensures ∧
        (defaulted "claims" [] (Decode.list Decode.text) members).value = .ok step.claims ∧
        (defaulted "decisions" [] (Decode.list Decode.text) members).value = .ok step.decisions := by
  rw [decode, record_object_eq_ok_iff]
  simp only [value_seq_eq_ok_iff, value_map_eq_ok_iff]
  constructor
  · rintro ⟨_, _, ⟨_, _, ⟨_, _, ⟨_, _, ⟨_, _, ⟨_, hid, rfl⟩, hrequires, rfl⟩, hactions, rfl⟩, hensures, rfl⟩,
      hclaims, rfl⟩, hdecisions, rfl⟩
    exact ⟨hid, hrequires, hactions, hensures, hclaims, hdecisions⟩
  · rintro ⟨hid, hrequires, hactions, hensures, hclaims, hdecisions⟩
    exact ⟨_, _, ⟨_, _, ⟨_, _, ⟨_, _, ⟨_, _, ⟨_, hid, rfl⟩, hrequires, rfl⟩, hactions, rfl⟩, hensures, rfl⟩,
      hclaims, rfl⟩, hdecisions, rfl⟩

theorem id_ne_empty_of_decode {value : Json} {step : AuthoredStep} (hmeets : Meets Schema.specStep value)
    (hread : decode value = .ok step) : step.id ≠ "" := by
  obtain ⟨fields, rfl, hfields, _⟩ := (meets_record_iff _ _ _).1 hmeets
  obtain ⟨given, hgiven, hid⟩ := value_required_eq_ok_iff.1 (decode_object_eq_ok_iff.1 hread).1
  have hshape : Meets identifier given := Declared.meets_of_lookup hfields hgiven rfl
  obtain ⟨content, hcontent, rfl⟩ := (meets_shaped_iff _ _).1 hshape
  cases hid
  intro hempty
  rw [hempty] at hcontent
  cases hcontent

end AuthoredStep

namespace Spec

theorem decode_object_eq_ok_iff {members : List (String × Json)} {spec : Spec} :
    decode (.object members) = .ok spec ↔
      (required "version" Decode.natural members).value = .ok spec.version ∧
        (required "target" Decode.text members).value = .ok spec.target ∧
        (required "project" Project.decode members).value = .ok spec.project ∧
        (optional "workspace" (decodeSection (.required "dir" Decode.text) "a workspace section") members).value =
          .ok spec.workspace ∧
        (optional "ui" ComponentLibrary.decode members).value = .ok spec.ui ∧
        (defaulted "routes" [] (Decode.list Decode.text) members).value = .ok spec.routes ∧
        (optional "quality" (decodeSection (.defaulted "gates" [] (Decode.list Decode.text)) "a quality section")
          members).value = .ok spec.gates ∧
        (optional "steps" (Decode.list AuthoredStep.decode) members).value = .ok spec.steps ∧
        (optional "intent" Intent.decode members).value = .ok spec.intent ∧
        (optional "docs" Docs.decode members).value = .ok spec.docs ∧
        (optional "effects" Effects.decode members).value = .ok spec.effects ∧
        (optional "artifacts"
          (decodeSection (.defaulted "required" [] (Decode.list Artifact.decode)) "an artifacts section")
          members).value = .ok spec.artifacts ∧
        (defaulted "assumptions" [] (Decode.list Assumption.decode) members).value = .ok spec.assumptions ∧
        (defaulted "decisions" [] (Decode.list Decision.decode) members).value = .ok spec.decisions := by
  rw [decode, record_object_eq_ok_iff]
  simp only [value_seq_eq_ok_iff, value_map_eq_ok_iff]
  constructor
  · rintro ⟨_, _, ⟨_, _, ⟨_, _, ⟨_, _, ⟨_, _, ⟨_, _, ⟨_, _, ⟨_, _, ⟨_, _, ⟨_, _, ⟨_, _, ⟨_, _, ⟨_, _, ⟨_,
      hversion, rfl⟩, htarget, rfl⟩, hproject, rfl⟩, hworkspace, rfl⟩, hui, rfl⟩, hroutes, rfl⟩, hgates, rfl⟩,
      hsteps, rfl⟩, hintent, rfl⟩, hdocs, rfl⟩, heffects, rfl⟩, hartifacts, rfl⟩, hassumptions, rfl⟩,
      hdecisions, rfl⟩
    exact ⟨hversion, htarget, hproject, hworkspace, hui, hroutes, hgates, hsteps, hintent, hdocs, heffects, hartifacts,
      hassumptions, hdecisions⟩
  · rintro ⟨hversion, htarget, hproject, hworkspace, hui, hroutes, hgates, hsteps, hintent, hdocs, heffects, hartifacts,
      hassumptions, hdecisions⟩
    exact ⟨_, _, ⟨_, _, ⟨_, _, ⟨_, _, ⟨_, _, ⟨_, _, ⟨_, _, ⟨_, _, ⟨_, _, ⟨_, _, ⟨_, _, ⟨_, _, ⟨_, _, ⟨_,
      hversion, rfl⟩, htarget, rfl⟩, hproject, rfl⟩, hworkspace, rfl⟩, hui, rfl⟩, hroutes, rfl⟩, hgates, rfl⟩,
      hsteps, rfl⟩, hintent, rfl⟩, hdocs, rfl⟩, heffects, rfl⟩, hartifacts, rfl⟩, hassumptions, rfl⟩,
      hdecisions, rfl⟩

/-- What the schemas of specs promise of a spec. -/
structure Checked (spec : Spec) : Prop where
  target : spec.target ≠ ""
  ids : ∀ steps, spec.steps = some steps → ∀ step ∈ steps, step.id ≠ ""
  thresholds : ∀ docs, spec.docs = some docs → ∀ demand ∈ docs.expect, ∀ threshold,
    demand.threshold = some threshold → threshold.InUnit

/-- The properties that the schema of some version declares. -/
def properties : Nat → List (String × Schema)
  | 1 => commonProperties 1
  | _ => commonProperties 2 ++
      [("intent", Schema.intent), ("docs", Schema.docs), ("effects", Schema.effects),
        ("artifacts", Schema.artifacts), ("assumptions", listOf Schema.assumption), ("decisions", listOf Schema.decision)]

theorem schema_eq_record {version : Nat} {schema : Schema} (h : schema? version = some schema) :
    ∃ required, schema = record (properties version) required := by
  unfold schema? at h
  split at h
  · cases h
    exact ⟨_, rfl⟩
  · cases h
    exact ⟨_, rfl⟩
  · cases h

theorem ofJson_eq_ok_iff {value : Json} {spec : Spec} :
    ofJson value = .ok spec ↔ ∃ version schema, (value.field? "version").bind Json.natural? = some version ∧
      schema? version = some schema ∧ Meets schema value ∧ decode value = .ok spec := by
  rw [ofJson]
  cases (value.field? "version").bind Json.natural? with
  | none => simp
  | some version =>
    cases hschema : schema? version with
    | none => simp [hschema]
    | some schema =>
      simp only [hschema, Option.some.injEq, Meets]
      cases hissues : Schema.issues schema value with
      | nil => cases hread : decode value <;> simp [hschema, hissues]
      | cons issue rest => simp [hschema, hissues]

theorem exists_fields_of_ofJson {value : Json} {spec : Spec} (h : ofJson value = .ok spec) :
    ∃ version fields, value = .object fields ∧ (∀ field ∈ fields, Declared (properties version) field) ∧
      decode (.object fields) = .ok spec := by
  obtain ⟨version, schema, _, hschema, hmeets, hread⟩ := ofJson_eq_ok_iff.1 h
  obtain ⟨required, rfl⟩ := schema_eq_record hschema
  obtain ⟨fields, rfl, hfields, _⟩ := (meets_record_iff _ _ _).1 hmeets
  exact ⟨version, fields, rfl, hfields, hread⟩

/-- Version 2 has to list its steps. -/
theorem exists_steps_of_ofJson {value : Json} {spec : Spec} (h : ofJson value = .ok spec) (hversion : spec.version = 2) :
    ∃ steps, spec.steps = some steps := by
  obtain ⟨version, schema, hfound, hschema, hmeets, hread⟩ := ofJson_eq_ok_iff.1 h
  have hsame : version = spec.version := by
    obtain ⟨_, rfl⟩ := schema_eq_record hschema
    obtain ⟨fields, rfl, _, _⟩ := (meets_record_iff _ _ _).1 hmeets
    obtain ⟨given, hgiven, hnatural⟩ := value_required_eq_ok_iff.1 (decode_object_eq_ok_iff.1 hread).1
    have hnumber : given.natural? = some version := by simpa [Json.field?, hgiven] using hfound
    rw [Decode.natural, hnumber] at hnatural
    simpa using hnatural
  rw [hsame, hversion] at hschema
  cases hschema
  obtain ⟨fields, rfl, hfields, hrequired⟩ := (meets_record_iff _ _ _).1 hmeets
  obtain ⟨given, hgiven⟩ := hrequired "steps" (by simp)
  have hlisted : Meets (listOf specStep) given := Declared.meets_of_lookup hfields hgiven rfl
  obtain ⟨items, rfl, _⟩ := (meets_listOf_iff _ _).1 hlisted
  obtain ⟨_, _, _, _, _, _, _, hsteps, _⟩ := decode_object_eq_ok_iff.1 hread
  rcases value_optional_eq_ok_iff.1 hsteps with ⟨hnone, _⟩ | ⟨found, hlookup, hnullable⟩
  · rw [hgiven] at hnone
    cases hnone
  · rw [hgiven] at hlookup
    cases hlookup
    obtain ⟨steps, _, hsome⟩ := Except.map_eq_ok_iff.1 hnullable
    exact ⟨steps, hsome.symm⟩

theorem checked_of_ofJson {value : Json} {spec : Spec} (h : ofJson value = .ok spec) : spec.Checked := by
  obtain ⟨version, fields, rfl, hfields, hread⟩ := exists_fields_of_ofJson h
  obtain ⟨_, htarget, _, _, _, _, _, hsteps, _, hdocs, _⟩ := decode_object_eq_ok_iff.1 hread
  refine ⟨?_, fun steps hsome step hstep => ?_, fun docs hsome demand hdemand threshold hthreshold => ?_⟩
  · obtain ⟨given, hgiven, htext⟩ := value_required_eq_ok_iff.1 htarget
    have hproperty : (properties version).lookup "target" = some someText := by
      unfold properties
      split <;> rfl
    obtain ⟨content, hcontent, rfl⟩ := (meets_someText_iff given).1 (Declared.meets_of_lookup hfields hgiven hproperty)
    cases htext
    exact hcontent
  · rw [hsome, value_optional_eq_some_iff] at hsteps
    obtain ⟨given, hgiven, _, hlist⟩ := hsteps
    have hproperty : (properties version).lookup "steps" = some (listOf Schema.specStep) := by
      unfold properties
      split <;> rfl
    obtain ⟨items, rfl, hitems⟩ := (meets_listOf_iff _ _).1 (Declared.meets_of_lookup hfields hgiven hproperty)
    obtain ⟨item, hitem, hread⟩ := exists_of_mem_mapM hlist hstep
    exact AuthoredStep.id_ne_empty_of_decode (hitems item hitem) hread
  · rw [hsome, value_optional_eq_some_iff] at hdocs
    obtain ⟨given, hgiven, _, hsection⟩ := hdocs
    have hproperty : (properties version).lookup "docs" = none ∨
        (properties version).lookup "docs" = some Schema.docs := by
      unfold properties
      split
      · exact .inl rfl
      · exact .inr rfl
    rcases hproperty with hnone | hproperty
    · obtain ⟨schema, hschema, _⟩ := hfields _ (Json.mem_of_lookup_eq_some hgiven)
      rw [hnone] at hschema
      cases hschema
    · exact Docs.inUnit_of_decode (Declared.meets_of_lookup hfields hgiven hproperty) hsection hdemand hthreshold

theorem exists_value_of_parse {text : String} {spec : Spec} (h : parse text = .ok spec) :
    ∃ value, Document.parse text = .ok value ∧ ofJson value = .ok spec := by
  rw [parse] at h
  cases hdocument : Document.parse text with
  | error fault => simp [hdocument] at h
  | ok value =>
    rw [hdocument] at h
    exact ⟨value, rfl, h⟩

/-- Every spec that is read from a text was checked. -/
theorem checked_of_parse {text : String} {spec : Spec} (h : parse text = .ok spec) : spec.Checked := by
  obtain ⟨value, _, hvalue⟩ := exists_value_of_parse h
  exact checked_of_ofJson hvalue

theorem exists_steps_of_parse {text : String} {spec : Spec} (h : parse text = .ok spec) (hversion : spec.version = 2) :
    ∃ steps, spec.steps = some steps := by
  obtain ⟨value, _, hvalue⟩ := exists_value_of_parse h
  exact exists_steps_of_ofJson hvalue hversion

end Spec

end GuardedPlan
