import GuardedPlan.Document
import GuardedPlan.Proofs.Decode.Reading
import GuardedPlan.Proofs.Plan.Shape
import GuardedPlan.Proofs.Schema.Agreement
import GuardedPlan.Proofs.Schema.Meets

/-!
# Plans that were checked

Plans that meet their schema are read. An operation or a check fits the one alternative that has its tag, and what the alternative asks for beside the tag is what the reader of that tag looks for. The schema asks for the name of the language as a constant, so a plan that meets it is always in the language that is supported.
-/

namespace GuardedPlan

open Schema

/-! ### Operations and checks -/

theorem Op.exists_fits {value : Json} (hmeets : Meets Schema.op value) :
    ∃ fields, value = .object fields ∧ ∃ row ∈ alternatives, ∃ name, Fits "op" row name fields :=
  exists_fits_of_union (schema_eq ▸ hmeets)

theorem Check.exists_fits {value : Json} (hmeets : Meets Schema.check value) :
    ∃ fields, value = .object fields ∧ ∃ row ∈ alternatives, ∃ name, Fits "kind" row name fields :=
  exists_fits_of_union (schema_eq ▸ hmeets)

/-- Two texts are read by whatever is made of them. -/
theorem complete_texts {α : Type} {first second : String} (hnames : (second == first) = false) (make : String → String → α) :
    Complete (within [(first, text), (second, text)]) [first, second]
      (make <$> .required first Decode.text <*> .required second Decode.text) := by
  refine .seq (.map (.required (by simp) ?first)) (.required (by simp) ?second)
  case first => simpa [within] using readBy_text
  case second => simpa [within, List.lookup_cons, hnames] using readBy_text

theorem Op.readBy : ReadBy Schema.op decode := by
  intro value hmeets
  obtain ⟨fields, rfl, row, hrow, name, hfits⟩ := exists_fits hmeets
  have hname := hfits.named
  rw [decode, Tagged.ofJson_object hfits.tagged]
  simp only [alternatives, List.mem_cons, List.not_mem_nil, or_false] at hrow
  rcases hrow with rfl | rfl | rfl
  · obtain rfl := List.mem_singleton.1 hname
    exact (Complete.map (.required (by simp) readBy_text)).exists_read_of_fits hfits (by simp) "Op::Run"
  · simp only [List.mem_cons, List.not_mem_nil, or_false] at hname
    rcases hname with rfl | rfl
    · exact (complete_texts (by simp) writeFile).exists_read_of_fits hfits (by simp) "Op::WriteFile"
    · exact (complete_texts (by simp) appendFile).exists_read_of_fits hfits (by simp) "Op::AppendFile"
  · obtain rfl := List.mem_singleton.1 hname
    have htemplate : Complete (within [("path", text), ("template", text), ("vars", [.members text, .kinds [.object]])])
        ["path", "template", "vars"]
        (writeTemplate <$> .required "path" Decode.text <*> .required "template" Decode.text
          <*> .required "vars" (Decode.table Decode.text)) :=
      .seq (.seq (.map (.required (by simp) readBy_text)) (.required (by simp) readBy_text))
        (.required (by simp) readBy_text.table)
    exact htemplate.exists_read_of_fits hfits (by simp) "Op::WriteTemplate"

theorem Check.readBy : ReadBy Schema.check decode := by
  intro value hmeets
  obtain ⟨fields, rfl, row, hrow, name, hfits⟩ := exists_fits hmeets
  have hname := hfits.named
  rw [decode, Tagged.ofJson_object hfits.tagged]
  simp only [alternatives, List.mem_cons, List.not_mem_nil, or_false] at hrow
  rcases hrow with rfl | rfl | rfl | rfl | rfl | rfl | rfl
  · have hpath : ∀ make : String → Check,
        Complete (within [("path", text)]) ["path"] (make <$> .required "path" Decode.text) := fun make =>
      .map (.required (by simp) readBy_text)
    simp only [List.mem_cons, List.not_mem_nil, or_false] at hname
    rcases hname with rfl | rfl
    · exact (hpath fileExists).exists_read_of_fits hfits (by simp) "Check::FileExists"
    · exact (hpath artifactExists).exists_read_of_fits hfits (by simp) "Check::ArtifactExists"
  · simp only [List.mem_cons, List.not_mem_nil, or_false] at hname
    rcases hname with rfl | rfl
    · exact (complete_texts (by simp) fileContains).exists_read_of_fits hfits (by simp) "Check::FileContains"
    · exact (complete_texts (by simp) docContains).exists_read_of_fits hfits (by simp) "Check::DocContains"
  · obtain rfl := List.mem_singleton.1 hname
    exact (complete_texts (by simp) routeExists).exists_read_of_fits hfits (by simp) "Check::RouteExists"
  · obtain rfl := List.mem_singleton.1 hname
    exact (Complete.map (.required (by simp) readBy_text)).exists_read_of_fits hfits (by simp) "Check::CmdOk"
  · obtain rfl := List.mem_singleton.1 hname
    have htracked : Complete (within [("dir", text), ("glob", text), ("allow", listOf text)]) ["dir", "glob", "allow"]
        (trackedOnly <$> .required "dir" Decode.text <*> .required "glob" Decode.text
          <*> .required "allow" (Decode.list Decode.text)) :=
      .seq (.seq (.map (.required (by simp) readBy_text)) (.required (by simp) readBy_text))
        (.required (by simp) readBy_text.list)
    exact htracked.exists_read_of_fits hfits (by simp) "Check::GitTrackedOnly"
  · obtain rfl := List.mem_singleton.1 hname
    exact (complete_texts (by simp) docSection).exists_read_of_fits hfits (by simp) "Check::DocSection"
  · obtain rfl := List.mem_singleton.1 hname
    have hfuzzy : Complete
        (within [("path", text), ("text", text), ("threshold", ratio), ("gate", boolean)])
        ["path", "text", "threshold", "gate"]
        (docResembles <$> .required "path" Decode.text <*> .required "text" Decode.text
          <*> .required "threshold" Decode.float <*> .defaulted "gate" true Decode.boolean) := by
      refine .seq (.seq (.seq (.map ?path) ?text) ?threshold) ?gate
      case path => exact .required (by simp) readBy_text
      case text => exact .required (by simp) readBy_text
      case threshold => exact .required (by simp) readBy_ratio
      case gate => exact .defaulted readBy_boolean
    exact hfuzzy.exists_read_of_fits hfits (by simp) "Check::DocContainsFuzzy"

/-! ### Steps and plans -/

theorem Step.readBy : ReadBy planStep decode := by
  refine .record (.seq (.seq (.seq (.seq (.seq (.map ?id) ?requires) ?ops) ?checks) ?claims) ?decisions)
  case id => exact .required (by simp) readBy_someText
  case requires => exact .required (by simp) readBy_text.list
  case ops => exact .required (by simp) Op.readBy.list
  case checks => exact .required (by simp) Check.readBy.list
  case claims => exact .required (by simp) readBy_text.list
  case decisions => exact .required (by simp) readBy_text.list

theorem readBy_constantText (content : String) : ReadBy [.constant (.text content)] Decode.text := by
  intro value hmeets
  have htag : Meets (tagSchema [content]) value := hmeets
  obtain ⟨name, _, rfl⟩ := exists_tag_of_meets htag
  exact ⟨name, rfl⟩

theorem Plan.readBy : ReadBy Schema.plan decode := by
  refine .record (.seq (.seq (.seq (.seq (.map ?lang) ?target) ?presetVersion) ?specHash) ?steps)
  case lang => exact .required (by simp) (readBy_constantText _)
  case target => exact .required (by simp) readBy_someText
  case presetVersion => exact .required (by simp) readBy_someText
  case specHash => exact .required (by simp) (readBy_shaped .specHash)
  case steps => exact .required (by simp) Step.readBy.list

/-! ### What was read -/

open Fields

theorem Step.decode_object_eq_ok_iff {members : List (String × Json)} {step : Step} :
    decode (.object members) = .ok step ↔
      (required "id" Decode.text members).value = .ok step.id ∧
        (required "requires" (Decode.list Decode.text) members).value = .ok step.requires ∧
        (required "ops" (Decode.list Op.decode) members).value = .ok step.ops ∧
        (required "checks" (Decode.list Check.decode) members).value = .ok step.checks ∧
        (required "claims" (Decode.list Decode.text) members).value = .ok step.claims ∧
        (required "decisions" (Decode.list Decode.text) members).value = .ok step.decisions := by
  rw [decode, record_object_eq_ok_iff]
  simp only [value_seq_eq_ok_iff, value_map_eq_ok_iff]
  constructor
  · rintro ⟨_, _, ⟨_, _, ⟨_, _, ⟨_, _, ⟨_, _, ⟨_, hid, rfl⟩, hrequires, rfl⟩, hops, rfl⟩, hchecks, rfl⟩,
      hclaims, rfl⟩, hdecisions, rfl⟩
    exact ⟨hid, hrequires, hops, hchecks, hclaims, hdecisions⟩
  · rintro ⟨hid, hrequires, hops, hchecks, hclaims, hdecisions⟩
    exact ⟨_, _, ⟨_, _, ⟨_, _, ⟨_, _, ⟨_, _, ⟨_, hid, rfl⟩, hrequires, rfl⟩, hops, rfl⟩, hchecks, rfl⟩,
      hclaims, rfl⟩, hdecisions, rfl⟩

namespace Plan

theorem decode_object_eq_ok_iff {members : List (String × Json)} {plan : Plan} :
    decode (.object members) = .ok plan ↔
      (required "lang" Decode.text members).value = .ok plan.lang ∧
        (required "target" Decode.text members).value = .ok plan.target ∧
        (required "presetVersion" Decode.text members).value = .ok plan.presetVersion ∧
        (required "specHash" Decode.text members).value = .ok plan.specHash ∧
        (required "steps" (Decode.list Step.decode) members).value = .ok plan.steps := by
  rw [decode, record_object_eq_ok_iff]
  simp only [value_seq_eq_ok_iff, value_map_eq_ok_iff]
  constructor
  · rintro ⟨_, _, ⟨_, _, ⟨_, _, ⟨_, _, ⟨_, hlang, rfl⟩, htarget, rfl⟩, hversion, rfl⟩, hhash, rfl⟩, hsteps, rfl⟩
    exact ⟨hlang, htarget, hversion, hhash, hsteps⟩
  · rintro ⟨hlang, htarget, hversion, hhash, hsteps⟩
    exact ⟨_, _, ⟨_, _, ⟨_, _, ⟨_, _, ⟨_, hlang, rfl⟩, htarget, rfl⟩, hversion, rfl⟩, hhash, rfl⟩, hsteps, rfl⟩

theorem lang_of_decode {value : Json} {plan : Plan} (hmeets : Meets Schema.plan value)
    (hread : decode value = .ok plan) : plan.lang = language := by
  obtain ⟨fields, rfl, hfields, _⟩ := (meets_record_iff _ _ _).1 hmeets
  obtain ⟨given, hgiven, htext⟩ := value_required_eq_ok_iff.1 (decode_object_eq_ok_iff.1 hread).1
  have hconstant : Meets [.constant (.text language)] given := Declared.meets_of_lookup hfields hgiven rfl
  rw [meets_singleton_iff, ruleIssues_constant_eq_nil_iff] at hconstant
  cases given with
  | string content =>
    cases htext
    simpa [Constant.accepts] using hconstant
  | _ => simp [Constant.accepts] at hconstant

/-- The language is not looked at again. -/
theorem ofJson_eq_ok_iff {value : Json} {plan : Plan} :
    ofJson value = .ok plan ↔ Meets Schema.plan value ∧ decode value = .ok plan := by
  rw [ofJson]
  cases hissues : Schema.issues Schema.plan value with
  | nil =>
    cases hread : decode value with
    | ok given =>
      simp [Meets, hissues, lang_of_decode hissues hread]
    | error fault => simp
  | cons issue rest => simp [Meets, hissues]

end Plan

end GuardedPlan
