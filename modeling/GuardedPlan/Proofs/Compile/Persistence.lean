import GuardedPlan.Compile
import GuardedPlan.Plan.Storage
import GuardedPlan.Proofs.Compile.Emission
import GuardedPlan.Proofs.Compile.Thresholds
import GuardedPlan.Proofs.FileTree.Writing
import GuardedPlan.Proofs.Json.Equality
import GuardedPlan.Proofs.Manifest.Checked
import GuardedPlan.Proofs.Plan.RoundTrip

/-!
# Storing what was compiled

An emitted plan that was stored is read back as it was when the ensures of its spec are bounded. When one is not, the stored file is refused, and the plan that was just compiled cannot be run from it. Whatever the text of the spec, its hash is written with the name of the hash function and sixty-four lower-case hexadecimal digits, as plans are checked for.
-/

namespace GuardedPlan

/-! ### The shape of a hash -/

namespace Sha256

theorem isHexChar_digitChar {n : Nat} (h : n < 16) : TextPattern.isHexChar (Nat.digitChar n) = true := by
  have hall : ∀ digit : Fin 16, TextPattern.isHexChar (Nat.digitChar digit.val) = true := by decide
  exact hall ⟨n, h⟩

theorem length_hexWord (w : UInt32) : (hexWord w).length = 8 := by
  rw [hexWord, List.length_map, List.length_range]

theorem isHexChar_of_mem_hexWord {w : UInt32} {c : Char} (h : c ∈ hexWord w) : TextPattern.isHexChar c = true := by
  obtain ⟨place, _, rfl⟩ := List.mem_map.1 h
  exact isHexChar_digitChar (Nat.mod_lt _ (by decide))

theorem length_hexDigest (text : String) : (hexDigest text).toList.length = 64 := by
  rw [hexDigest, String.toList_ofList, hash]
  simp [length_hexWord]

theorem all_isHexChar_hexDigest (text : String) : (hexDigest text).toList.all TextPattern.isHexChar = true := by
  rw [hexDigest, String.toList_ofList, List.all_eq_true]
  intro c hc
  obtain ⟨w, _, hc⟩ := List.mem_flatMap.1 hc
  exact isHexChar_of_mem_hexWord hc

end Sha256

/-- Every hash of a spec has the shape that plans are checked for. -/
theorem Compilation.accepts_specHash (text : String) :
    TextPattern.specHash.accepts (specHash text).toList = true := by
  have hchars : (specHash text).toList = "sha256:".toList ++ (Sha256.hexDigest text).toList := String.toList_append
  have hlength : "sha256:".toList.length = 7 := rfl
  rw [hchars, TextPattern.accepts, List.take_left' hlength, List.drop_left' hlength]
  simp [Sha256.length_hexDigest, Sha256.all_isHexChar_hexDigest]

/-! ### Storing and reading back -/

namespace Plan

theorem toList_canonicalText (plan : Plan) : plan.canonicalText.toList = plan.encode.indentedText 0 ++ ['\n'] := by
  rw [canonicalText, String.toList_append, Json.pretty, String.toList_ofList]
  rfl

/-- A plan that could be stored is what its file holds, and reading the file is reading its text. -/
theorem load_of_save {plan : Plan} {tree : FileTree} {path : String} (hsave : (plan.save tree path).1 = .ok ()) :
    load (plan.save tree path).2 path = ofText path plan.canonicalText := by
  rw [save] at hsave ⊢
  rcases hmade : tree.makeDirectories ((Path.parent? path).getD "") with ⟨fault | done, made⟩
  · rw [hmade] at hsave
    cases hsave
  · rw [hmade] at hsave
    dsimp only at hsave ⊢
    cases hwrite : made.write path plan.canonicalText.toUTF8 with
    | error fault =>
      rw [hwrite] at hsave
      cases hsave
    | ok stored => rw [load, FileTree.readText_of_write hwrite]

/-- A stored plan that is well formed is read back, and one that is not is refused for its shape. -/
theorem load_of_save_of_json {plan : Plan} {tree : FileTree} {path : String}
    (hsave : (plan.save tree path).1 = .ok ()) (hjson : Json.parse? plan.canonicalText = some plan.encode.canonical) :
    (plan.WellFormed → load (plan.save tree path).2 path = .ok plan) ∧
      (¬ plan.WellFormed → ∃ issue rest,
        load (plan.save tree path).2 path = .error (.invalid path (.shape (issue :: rest)))) := by
  have htext : ofText path plan.canonicalText = (ofJson plan.encode.canonical).mapError (.invalid path) := by
    rw [ofText, hjson]
  rw [load_of_save hsave, htext]
  obtain ⟨hread, hrefused⟩ := plan.ofJson_encode
  refine ⟨fun hwell => ?_, fun hill => ?_⟩
  · rw [hread hwell]
    rfl
  · obtain ⟨issue, rest, hissues⟩ := hrefused hill
    refine ⟨issue, rest, ?_⟩
    rw [hissues]
    rfl

end Plan

/-- Of all that the schema of plans asks for, the thresholds of ensures are what a checked spec does not promise. -/
theorem Compilation.wellFormed_emitted_iff {spec : Spec} {manifest : Manifest} (hspec : spec.Checked)
    (hmanifest : manifest.Checked) (text : String) :
    (emitted text spec manifest).WellFormed ↔ spec.EnsuresBounded := by
  rw [← Spec.forall_storable_draft_iff hspec manifest]
  constructor
  · intro hwell step hstep
    exact ⟨hwell.ids step hstep, hwell.bounded step hstep⟩
  · intro hstorable
    exact {
      lang := rfl
      target := hspec.target
      version := hmanifest.version
      hash := accepts_specHash text
      ids := fun step hstep => (hstorable step hstep).1
      bounded := fun step hstep => (hstorable step hstep).2 }

theorem Compilation.wellFormed_iff_of_compile {text : String} {lookup : ManifestLookup} {spec : Spec} {plan : Plan}
    (hspec : Spec.parse text = .ok spec) (hcompile : (compile text lookup).plan = some plan) :
    plan.WellFormed ↔ spec.EnsuresBounded := by
  obtain ⟨found, manifest, policy, hfound, hmanifest, _, _, rfl⟩ := compile_plan_eq_some.1 hcompile
  rw [hspec] at hfound
  cases hfound
  exact wellFormed_emitted_iff (Spec.checked_of_parse hspec) (Manifest.checked_of_resolve hmanifest) text

/-- An emitted plan meets the schema of plans, and is read back as it was stored, exactly when the ensures of its spec are bounded. -/
theorem load_of_save_of_compile {text : String} {lookup : ManifestLookup} {spec : Spec} {plan : Plan}
    {tree : FileTree} {path : String} (hspec : Spec.parse text = .ok spec)
    (hcompile : (compile text lookup).plan = some plan) (hsave : (plan.save tree path).1 = .ok ())
    (hjson : Json.parse? plan.canonicalText = some plan.encode.canonical) :
    (Schema.Meets Schema.plan plan.encode.canonical ↔ spec.EnsuresBounded) ∧
      (spec.EnsuresBounded → Plan.load (plan.save tree path).2 path = .ok plan) ∧
      (¬ spec.EnsuresBounded → ∃ issue rest,
        Plan.load (plan.save tree path).2 path = .error (.invalid path (.shape (issue :: rest)))) := by
  have hwell := Compilation.wellFormed_iff_of_compile hspec hcompile
  rw [plan.meets_encode_iff, ← hwell]
  exact ⟨Iff.rfl, Plan.load_of_save_of_json hsave hjson⟩

/-! ### A plan that is read back and one that is not -/

namespace Sample

/-- A spec with a step whose ensure sets a threshold below zero. -/
def loose : String :=
  "version: 1\ntarget: t\nproject:\n  name: n\nsteps:\n- id: s\n  ensures:\n" ++
    "  - docContainsFuzzy:\n      path: a\n      text: x\n      threshold: -1\n"

def loosePlan : Plan where
  lang := Plan.language
  target := "t"
  presetVersion := "1"
  specHash := "sha256:52ec8cc20c4f0fbcf32f5e98a18000c7cfdeb7fc3aae9ccce3c495a456d8d684"
  steps := [{ id := "s", checks := [.docResembles "a" "x" ⟨true, 4503599627370496, 1022⟩ true] }]

theorem compile_loose : (compile loose lookup).plan = some loosePlan := by decide +kernel

theorem wellFormed_plan : plan.WellFormed where
  lang := rfl
  target := by decide
  version := by decide
  hash := by decide
  ids := by decide
  bounded := by
    simp only [plan, List.forall_mem_singleton, Check.Bounded]
    exact Binary64.inUnit_of_le (show _ ≤ Nat.pow 2 52 by decide) (by decide)

theorem not_wellFormed_loosePlan : ¬ loosePlan.WellFormed := by
  intro hwell
  have hbounded := hwell.bounded
  simp only [loosePlan, List.forall_mem_singleton, Check.Bounded] at hbounded
  exact Binary64.not_inUnit_of_negative (by decide) hbounded

theorem parse?_plan : Json.parse? plan.canonicalText = some plan.encode.canonical := by
  rw [Json.parse?, Plan.toList_canonicalText]
  decide +kernel

theorem parse?_loosePlan : Json.parse? loosePlan.canonicalText = some loosePlan.encode.canonical := by
  rw [Json.parse?, Plan.toList_canonicalText]
  decide +kernel

end Sample

theorem load_of_save_of_compile_samples :
    (∃ spec, Spec.parse Sample.text = .ok spec ∧ spec.EnsuresBounded ∧
      Plan.load (Sample.plan.save .empty "plan.json").2 "plan.json" = .ok Sample.plan) ∧
    ∃ spec, Spec.parse Sample.loose = .ok spec ∧ ¬ spec.EnsuresBounded ∧ ∃ issue rest,
      Plan.load (Sample.loosePlan.save .empty "plan.json").2 "plan.json" =
        .error (.invalid "plan.json" (.shape (issue :: rest))) := by
  refine ⟨?_, ?_⟩
  · obtain ⟨spec, _, _, hspec, _⟩ := compile_plan_eq_some.1 Sample.compile_text
    have hbounded := (Compilation.wellFormed_iff_of_compile hspec Sample.compile_text).1 Sample.wellFormed_plan
    exact ⟨spec, hspec, hbounded,
      (load_of_save_of_compile hspec Sample.compile_text rfl Sample.parse?_plan).2.1 hbounded⟩
  · obtain ⟨spec, _, _, hspec, _⟩ := compile_plan_eq_some.1 Sample.compile_loose
    have hloose : ¬ spec.EnsuresBounded := fun hbounded => Sample.not_wellFormed_loosePlan
      ((Compilation.wellFormed_iff_of_compile hspec Sample.compile_loose).2 hbounded)
    exact ⟨spec, hspec, hloose,
      (load_of_save_of_compile hspec Sample.compile_loose rfl Sample.parse?_loosePlan).2.2 hloose⟩

end GuardedPlan
