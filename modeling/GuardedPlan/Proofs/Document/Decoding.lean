import GuardedPlan.Proofs.Manifest.Checked
import GuardedPlan.Proofs.Plan.Checked
import GuardedPlan.Proofs.Spec.Checked

/-!
# Documents that meet their schema are decoded

A document is decoded only once it met its schema, and its decoder then never fails. So every document that is turned away is turned away for its version or by the schema, and the faults of decoding are there in vain.
-/

namespace GuardedPlan

open Schema

/-! ### Messages -/

/-- Messages that differ in a character are two messages. -/
theorem message_ne_of_getElem? {first second : String} (n : Nat) (h : first.toList[n]? ≠ second.toList[n]?) :
    first ≠ second := by
  rintro rfl
  exact h rfl

/-! ### Specs -/

namespace Spec

/-- The value meets the schema of the version that it names. -/
def Accepted (value : Json) : Prop :=
  ∃ version schema, (value.field? "version").bind Json.natural? = some version ∧ schema? version = some schema ∧
    Meets schema value

theorem readBy_schema {version : Nat} {schema : Schema} (h : schema? version = some schema) : ReadBy schema decode := by
  unfold schema? at h
  split at h
  · cases h
    exact readBy_specV1
  · cases h
    exact readBy_specV2
  · cases h

theorem exists_of_accepted {value : Json} (h : Accepted value) : ∃ spec, decode value = .ok spec := by
  obtain ⟨version, schema, _, hschema, hmeets⟩ := h
  exact readBy_schema hschema value hmeets

/-- What a spec may be turned away for. -/
theorem message_of_ofJson {value : Json} {finding : Diagnostic} (h : ofJson value = .error finding) :
    finding.message = "spec is missing an integer `version`" ∨
      (∃ version : Nat, finding.message = "unsupported spec version " ++ toString version) ∨
      ∃ (version : Nat) (issues : List SchemaIssue), finding.message =
        "spec does not match the v" ++ toString version ++ " shape: " ++ Schema.report issues := by
  rw [ofJson] at h
  split at h
  · cases h
    exact .inl rfl
  · rename_i version _
    split at h
    · cases h
      exact .inr (.inl ⟨version, rfl⟩)
    · rename_i schema hschema
      split at h
      · rename_i hissues
        obtain ⟨spec, hread⟩ := readBy_schema hschema value hissues
        simp [hread] at h
      · cases h
        exact .inr (.inr ⟨version, _, rfl⟩)

theorem message_ne_undecodable {text : String} {finding : Diagnostic} (h : parse text = .error finding)
    (detail : String) : finding.message ≠ "cannot decode spec" ++ detail := by
  rw [parse] at h
  split at h
  · rcases message_of_ofJson h with hmessage | ⟨version, hmessage⟩ | ⟨version, issues, hmessage⟩
    · rw [hmessage]
      exact message_ne_of_getElem? 0 (by simp)
    · rw [hmessage]
      exact message_ne_of_getElem? 0 (by simp)
    · rw [hmessage]
      exact message_ne_of_getElem? 0 (by simp)
  · cases h
    exact message_ne_of_getElem? 7 (by simp)

end Spec

/-! ### Manifests and plans -/

theorem Manifest.message_ne_undecodable {target : String} {value : Json} {finding : Diagnostic}
    (h : ofJson target value = .error finding) (detail : String) :
    finding.message ≠ "cannot decode manifest" ++ detail := by
  rw [ofJson] at h
  split at h
  · rename_i hissues
    obtain ⟨manifest, hread⟩ := readBy value hissues
    simp [hread] at h
  · cases h
    exact message_ne_of_getElem? 0 (by simp)

theorem Plan.exists_of_meets {value : Json} (hmeets : Meets Schema.plan value) :
    ∃ plan, decode value = .ok plan ∧ plan.lang = language := by
  obtain ⟨plan, hread⟩ := readBy value hmeets
  exact ⟨plan, hread, lang_of_decode hmeets hread⟩

/-- A value that is no plan has a shape that is at fault. -/
theorem Plan.exists_issues_of_ofJson {value : Json} {fault : Fault} (h : ofJson value = .error fault) :
    ∃ issues, fault = .shape issues := by
  rw [ofJson] at h
  split at h
  · rename_i hissues
    obtain ⟨plan, hread, hlang⟩ := exists_of_meets hissues
    simp [hread, hlang] at h
  · cases h
    exact ⟨_, rfl⟩

/-! ### All documents -/

/-- Whatever meets the schema of its kind is decoded, so no document is turned away for a fault of decoding, nor a plan for its language. -/
theorem decodes_of_meets :
    (∀ value, Spec.Accepted value → ∃ spec, Spec.decode value = .ok spec) ∧
      (∀ value, Meets Schema.manifest value → ∃ manifest, Manifest.decode value = .ok manifest) ∧
      (∀ value, Meets Schema.plan value → ∃ plan, Plan.decode value = .ok plan ∧ plan.lang = Plan.language) ∧
      (∀ text finding, Spec.parse text = .error finding →
        ∀ detail, finding.message ≠ "cannot decode spec" ++ detail) ∧
      (∀ target value finding, Manifest.ofJson target value = .error finding →
        ∀ detail, finding.message ≠ "cannot decode manifest" ++ detail) ∧
      ∀ value fault, Plan.ofJson value = .error fault →
        (∀ detail, fault ≠ .undecodable detail) ∧ ∀ found, fault ≠ .language found := by
  refine ⟨fun value haccepted => Spec.exists_of_accepted haccepted, fun value hmeets => Manifest.readBy value hmeets,
    fun value hmeets => Plan.exists_of_meets hmeets, fun text finding h => Spec.message_ne_undecodable h,
    fun target value finding h => Manifest.message_ne_undecodable h, fun value fault h => ?_⟩
  obtain ⟨issues, rfl⟩ := Plan.exists_issues_of_ofJson h
  refine ⟨fun detail hfault => ?_, fun found hfault => ?_⟩
  · cases hfault
  · cases hfault

namespace Sample

/-- A spec with a decision that has null for a parent and an integer for its confidence. -/
def doubtfulSpec : Json :=
  .object
    [("decisions", .array [.object
        [("answer", .string "a"), ("confidence", .number (.int 1)), ("id", .string "D"), ("parent", .null),
          ("question", .string "q"), ("rationale", .string "r"), ("status", .string "final")]]),
      ("project", .object [("name", .string "n")]), ("steps", .array []), ("target", .string "t"),
      ("version", .number (.int 2))]

/-- A manifest with a macro, a table of routes and a field that nobody reads. -/
def routedManifest : Json :=
  .object
    [("commands", .object []), ("effectsPolicy", .object [("allowWrite", Json.strings ["a/*"])]),
      ("macros", .object [("m", .object
        [("args", .object [("dir", .string "path")]),
          ("expandsTo", .array [.object [("run", .string "go")]])])]),
      ("note", .null), ("presetVersion", .string "1"),
      ("semantics", .object [("routing", .object [("routesFile", .string "r"), ("style", .string "routerTable")])])]

/-- A plan with an operation and a check of one step. -/
def smallPlan : Json :=
  .object
    [("lang", .string "webspec.plan/v1"), ("presetVersion", .string "1"),
      ("specHash", .string "sha256:abd20ee2df31859ca9b13066e2f6e76c9b4c405fd6f27416e7207824c7887caf"),
      ("steps", .array [.object
        [("checks", .array [.object [("kind", .string "file.exists"), ("path", .string "a")]]), ("claims", .array []),
          ("decisions", .array []), ("id", .string "s"),
          ("ops", .array [.object [("content", .string "x"), ("op", .string "WRITE_FILE"), ("path", .string "a")]]),
          ("requires", .array [])]]),
      ("target", .string "t")]

theorem accepted_doubtfulSpec : Spec.Accepted doubtfulSpec := by
  have hissues : (issues specV2 doubtfulSpec).isEmpty = true := by decide +kernel
  exact ⟨2, specV2, rfl, rfl, (isEmpty_issues_iff _ _).1 hissues⟩

theorem exists_finding_of_parse : ∃ finding, Spec.parse "{}" = .error finding := ⟨_, rfl⟩

theorem exists_finding_of_ofJson : ∃ finding, Manifest.ofJson "t" .null = .error finding := ⟨_, rfl⟩

theorem exists_fault_of_ofJson : ∃ fault, Plan.ofJson .null = .error fault := ⟨_, rfl⟩

end Sample

theorem decodes_of_meets_samples :
    (∃ spec, Spec.decode Sample.doubtfulSpec = .ok spec) ∧
      (∃ manifest, Manifest.decode Sample.routedManifest = .ok manifest) ∧
      (∃ plan, Plan.decode Sample.smallPlan = .ok plan ∧ plan.lang = Plan.language) ∧
      (∃ finding, Spec.parse "{}" = .error finding ∧ ∀ detail, finding.message ≠ "cannot decode spec" ++ detail) ∧
      (∃ finding, Manifest.ofJson "t" .null = .error finding ∧
        ∀ detail, finding.message ≠ "cannot decode manifest" ++ detail) ∧
      ∃ fault, Plan.ofJson .null = .error fault ∧ (∀ detail, fault ≠ .undecodable detail) ∧
        ∀ found, fault ≠ .language found := by
  obtain ⟨hspec, hmanifest, hplan, hspecFault, hmanifestFault, hplanFault⟩ := decodes_of_meets
  obtain ⟨specFinding, hspecFinding⟩ := Sample.exists_finding_of_parse
  obtain ⟨manifestFinding, hmanifestFinding⟩ := Sample.exists_finding_of_ofJson
  obtain ⟨fault, hfault⟩ := Sample.exists_fault_of_ofJson
  exact ⟨hspec _ Sample.accepted_doubtfulSpec, hmanifest Sample.routedManifest rfl,
    hplan Sample.smallPlan rfl, ⟨specFinding, hspecFinding, hspecFault _ _ hspecFinding⟩,
    ⟨manifestFinding, hmanifestFinding, hmanifestFault _ _ _ hmanifestFinding⟩, fault, hfault, hplanFault _ _ hfault⟩

end GuardedPlan
