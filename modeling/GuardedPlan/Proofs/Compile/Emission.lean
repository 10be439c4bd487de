import GuardedPlan.Proofs.Guardrail.Silence

/-!
# When a plan is emitted

A compilation either stops at the first document it cannot read or runs every pass; in the second case it emits its plan exactly when all passes that find errors are silent. What else is proved of emitted plans starts from `compile_plan_eq_some`, which names the spec, the manifest and the policy behind a plan.
-/

namespace GuardedPlan

namespace Compilation

/-- What is wrong with the forest of the decisions of a spec, unless repeated ids keep it from being one. -/
def forestFindings (spec : Spec) : List Diagnostic :=
  match DecisionTree.build spec.decisions with
  | .ok _ => []
  | .error fault => (Guardrail.treeFinding? fault).toList

/-- The record that an id of a decision stands for in a compilation. -/
def decisionOf (spec : Spec) : String → Option Decision :=
  Decision.resolve (DecisionTree.build spec.decisions).toOption spec.decisions

/-- The plan that is emitted for a spec if nothing speaks against it. -/
def emitted (text : String) (spec : Spec) (manifest : Manifest) : Plan where
  lang := Plan.language
  target := spec.target
  presetVersion := manifest.presetVersion
  specHash := specHash text
  steps := (spec.draft manifest).steps

/-- Nothing that was found while a spec was compiled is an error. -/
structure Silent (spec : Spec) (manifest : Manifest) (policy : WritePolicy) : Prop where
  forest : forestFindings spec = []
  built : (spec.draft manifest).diagnostics = []
  effects : Guardrail.effects spec policy (spec.draft manifest).steps = []
  commands : Guardrail.commands manifest.commands (spec.draft manifest).steps = []
  proofs : Guardrail.proofs (spec.draft manifest).steps = []
  claims : Guardrail.claims spec (spec.draft manifest).steps = []
  decisions : Guardrail.decisions spec (decisionOf spec) (spec.draft manifest).steps = []
  artifacts : Guardrail.artifacts spec (spec.draft manifest).steps = []

theorem allErrors_forestFindings (spec : Spec) : AllErrors (forestFindings spec) := by
  unfold forestFindings
  split
  · exact AllErrors.nil
  · exact Guardrail.allErrors_treeFinding _

theorem findings_eq (spec : Spec) (manifest : Manifest) (policy : WritePolicy) :
    findings spec manifest policy =
      forestFindings spec ++ (spec.draft manifest).diagnostics ++
        Guardrail.effects spec policy (spec.draft manifest).steps ++
        Guardrail.commands manifest.commands (spec.draft manifest).steps ++
        Guardrail.proofs (spec.draft manifest).steps ++ Guardrail.claims spec (spec.draft manifest).steps ++
        Guardrail.decisions spec (decisionOf spec) (spec.draft manifest).steps ++
        Guardrail.artifacts spec (spec.draft manifest).steps ++
        Guardrail.requiresOrder (spec.draft manifest).steps := rfl

/-- The order of requirements is the one pass without a say. -/
theorem hasErrors_findings_eq_false_iff (spec : Spec) (manifest : Manifest) (policy : WritePolicy) :
    hasErrors (findings spec manifest policy) = false ↔ Silent spec manifest policy := by
  rw [findings_eq]
  simp only [hasErrors_append, Bool.or_eq_false_iff, Guardrail.hasErrors_requiresOrder,
    (allErrors_forestFindings spec).hasErrors_eq_false_iff, (spec.allErrors_draft manifest).hasErrors_eq_false_iff,
    (Guardrail.allErrors_effects _ _ _).hasErrors_eq_false_iff,
    (Guardrail.allErrors_commands _ _).hasErrors_eq_false_iff, (Guardrail.allErrors_proofs _).hasErrors_eq_false_iff,
    (Guardrail.allErrors_claims _ _).hasErrors_eq_false_iff,
    (Guardrail.allErrors_decisions _ _ _).hasErrors_eq_false_iff,
    (Guardrail.allErrors_artifacts _ _).hasErrors_eq_false_iff, and_true]
  constructor
  · rintro ⟨⟨⟨⟨⟨⟨⟨hforest, hbuilt⟩, heffects⟩, hcommands⟩, hproofs⟩, hclaims⟩, hdecisions⟩, hartifacts⟩
    exact ⟨hforest, hbuilt, heffects, hcommands, hproofs, hclaims, hdecisions, hartifacts⟩
  · rintro ⟨hforest, hbuilt, heffects, hcommands, hproofs, hclaims, hdecisions, hartifacts⟩
    exact ⟨⟨⟨⟨⟨⟨⟨hforest, hbuilt⟩, heffects⟩, hcommands⟩, hproofs⟩, hclaims⟩, hdecisions⟩, hartifacts⟩

theorem ofSpec_plan_eq_some {text : String} {spec : Spec} {manifest : Manifest} {policy : WritePolicy} {plan : Plan} :
    (ofSpec text spec manifest policy).plan = some plan ↔
      Silent spec manifest policy ∧ plan = emitted text spec manifest := by
  rw [← hasErrors_findings_eq_false_iff, ofSpec]
  dsimp only
  cases hasErrors (findings spec manifest policy) with
  | true => simp
  | false => simp [emitted, eq_comm]

end Compilation

open Compilation

/-- Behind every emitted plan stand a spec that was read, the manifest of its target and the policy of that manifest. -/
theorem compile_plan_eq_some {text : String} {lookup : ManifestLookup} {plan : Plan} :
    (compile text lookup).plan = some plan ↔
      ∃ spec manifest policy, Spec.parse text = .ok spec ∧ Manifest.resolve lookup spec.target = .ok manifest ∧
        manifest.writePolicy = .ok policy ∧ Silent spec manifest policy ∧ plan = emitted text spec manifest := by
  unfold compile
  cases hspec : Spec.parse text with
  | error d => simp [stopped]
  | ok spec =>
    dsimp only
    cases hmanifest : Manifest.resolve lookup spec.target with
    | error d => simp [stopped, hmanifest]
    | ok manifest =>
      dsimp only
      cases hpolicy : manifest.writePolicy with
      | error bad => simp [stopped, hmanifest, hpolicy]
      | ok policy =>
        dsimp only
        rw [ofSpec_plan_eq_some]
        constructor
        · rintro ⟨hsilent, rfl⟩
          exact ⟨spec, manifest, policy, rfl, hmanifest, hpolicy, hsilent, rfl⟩
        · rintro ⟨spec', manifest', policy', hspec', hmanifest', hpolicy', hsilent, rfl⟩
          cases hspec'
          rw [hmanifest] at hmanifest'
          cases hmanifest'
          rw [hpolicy] at hpolicy'
          cases hpolicy'
          exact ⟨hsilent, rfl⟩

/-! ### A spec that compiles -/

namespace Sample

/-- A spec with a step that runs a command and writes a file that is then compared with a text. -/
def text : String :=
  "version: 1\ntarget: t\nproject:\n  name: n\nsteps:\n- id: s\n  actions:\n  - run: go\n" ++
    "  - writeFile:\n      path: a/b\n      content: x\n" ++
    "  ensures:\n  - docContainsFuzzy:\n      path: a/b\n      text: x\n      threshold: 1\n"

/-- A manifest that permits what the spec does. -/
def manifest : Json :=
  .object
    [("commands", .object [("allowPrefixes", Json.strings ["go"])]),
      ("effectsPolicy", .object [("allowWrite", Json.strings ["a/*"])]), ("presetVersion", .string "1")]

/-- A registry that knows the manifest for every target. -/
def lookup : ManifestLookup := fun _ => .ok (some manifest)

/-- The plan of the spec. -/
def plan : Plan where
  lang := Plan.language
  target := "t"
  presetVersion := "1"
  specHash := "sha256:abd20ee2df31859ca9b13066e2f6e76c9b4c405fd6f27416e7207824c7887caf"
  steps := [{
    id := "s"
    ops := [.run "go", .writeFile "a/b" "x"]
    checks := [.docResembles "a/b" "x" ⟨false, 4503599627370496, 1022⟩ true] }]

theorem compile_text : (compile text lookup).plan = some plan := by decide +kernel

end Sample

end GuardedPlan
