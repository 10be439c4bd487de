import GuardedPlan.Proofs.Compile.Emission
import GuardedPlan.Proofs.Manifest.Checked
import GuardedPlan.Proofs.Policy.Permission

/-!
# The effect gate

What the five passes over effects, commands, proofs and artifacts let through, said without them: a plan is emitted exactly when the steps that were built are approved, once everything that is read can be read and the builder and the passes over claims and decisions have nothing to say. Approval speaks of globs, scopes and substrings as the documents write them down.
-/

namespace GuardedPlan

/-- The globs of a manifest and of the scopes of a spec can be read. -/
structure GlobsRead (spec : Spec) (manifest : Manifest) : Prop where
  allow : ∃ globs, Glob.parseAll manifest.effectsPolicy.allowWrite = .ok globs
  deny : ∃ globs, Glob.parseAll manifest.effectsPolicy.denyWrite = .ok globs
  scopes : ∀ scopes, spec.writeScopes = some scopes → ∃ globs, Glob.parseAll scopes = .ok globs

/-- Steps that do what a manifest and a spec permit, that prove what they do and that write what the spec demands. -/
structure Approved (spec : Spec) (manifest : Manifest) (steps : List Step) : Prop where
  writes : ∀ step ∈ steps, ∀ target ∈ step.targets, WritePermitted manifest.effectsPolicy spec.writeScopes target
  commands : ∀ step ∈ steps, ∀ command ∈ step.commands, CommandPermitted manifest.commands command
  proved : ∀ step ∈ steps, step.ops ≠ [] → step.checks ≠ []
  written : ∀ required, spec.artifacts = some required → ∀ artifact ∈ required, artifact.mustWrite = true →
    ∃ step ∈ steps, ∃ target ∈ step.targets, Path.normalize target = Path.normalize artifact.path
  confined : spec.isExplicit = true → spec.writeScopes ≠ none

theorem Manifest.exists_writePolicy_iff (manifest : Manifest) :
    (∃ policy, manifest.writePolicy = .ok policy) ↔
      (∃ globs, Glob.parseAll manifest.effectsPolicy.allowWrite = .ok globs) ∧
        ∃ globs, Glob.parseAll manifest.effectsPolicy.denyWrite = .ok globs := by
  simp only [writePolicy, WritePolicy.ofEffects_eq_ok_iff]
  constructor
  · rintro ⟨policy, hallow, hdeny, _⟩
    exact ⟨⟨policy.allow, hallow⟩, policy.deny, hdeny⟩
  · rintro ⟨⟨allow, hallow⟩, deny, hdeny⟩
    exact ⟨⟨allow, deny, none⟩, hallow, hdeny, rfl⟩

namespace Guardrail

/-- The policy that the pass over effects judges by permits what the manifest and the scopes permit. -/
theorem scopedPolicy_violations_eq_nil_iff {spec : Spec} {manifest : Manifest} {policy : WritePolicy}
    (hpolicy : manifest.writePolicy = .ok policy) (hscopes : (scopedPolicy spec policy).2 = []) (path : String) :
    (scopedPolicy spec policy).1.violations path = [] ↔
      WritePermitted manifest.effectsPolicy spec.writeScopes path := by
  obtain ⟨hallow, hdeny, hunscoped⟩ := WritePolicy.ofEffects_eq_ok_iff.1 hpolicy
  rcases scopedPolicy_fst_of_snd_eq_nil hscopes with ⟨hnone, hsame⟩ | ⟨scopes, globs, hsome, hglobs, hconfined⟩
  · rw [hsame]
    exact WritePolicy.violations_eq_nil_iff_permitted hallow hdeny (.inl ⟨hnone, hunscoped⟩) path
  · rw [hconfined]
    refine WritePolicy.violations_eq_nil_iff_permitted ?_ ?_ (.inr ⟨scopes, globs, hsome, hglobs, rfl⟩) path
    · exact hallow
    · exact hdeny

end Guardrail

namespace Compilation

theorem approved_of_silent {spec : Spec} {manifest : Manifest} {policy : WritePolicy} (hchecked : manifest.Checked)
    (hpolicy : manifest.writePolicy = .ok policy) (h : Silent spec manifest policy) :
    Approved spec manifest (spec.draft manifest).steps := by
  obtain ⟨hscopes, htargets⟩ := (Guardrail.effects_eq_nil_iff _ _ _).1 h.effects
  refine ⟨fun step hstep target htarget => ?_, fun step hstep command hcommand => ?_,
    (Guardrail.proofs_eq_nil_iff _).1 h.proofs, (Guardrail.artifacts_eq_nil_iff _ _).1 h.artifacts,
    ((Guardrail.scopedPolicy_snd_eq_nil_iff _ _).1 hscopes).1⟩
  · exact (Guardrail.scopedPolicy_violations_eq_nil_iff hpolicy hscopes target).1 (htargets step hstep target htarget)
  · exact (CommandsPolicy.violations_eq_nil_iff_permitted hchecked.leading command).1
      ((Guardrail.commands_eq_nil_iff _ _).1 h.commands step hstep command hcommand)

theorem effects_eq_nil_of_approved {spec : Spec} {manifest : Manifest} {policy : WritePolicy} {steps : List Step}
    (hpolicy : manifest.writePolicy = .ok policy) (hglobs : GlobsRead spec manifest)
    (h : Approved spec manifest steps) : Guardrail.effects spec policy steps = [] := by
  have hscopes : (Guardrail.scopedPolicy spec policy).2 = [] :=
    (Guardrail.scopedPolicy_snd_eq_nil_iff _ _).2 ⟨h.confined, hglobs.scopes⟩
  rw [Guardrail.effects_eq_nil_iff]
  refine ⟨hscopes, fun step hstep target htarget => ?_⟩
  exact (Guardrail.scopedPolicy_violations_eq_nil_iff hpolicy hscopes target).2 (h.writes step hstep target htarget)

theorem commands_eq_nil_of_approved {spec : Spec} {manifest : Manifest} {steps : List Step}
    (hchecked : manifest.Checked) (h : Approved spec manifest steps) :
    Guardrail.commands manifest.commands steps = [] := by
  rw [Guardrail.commands_eq_nil_iff]
  intro step hstep command hcommand
  exact (CommandsPolicy.violations_eq_nil_iff_permitted hchecked.leading command).2 (h.commands step hstep command hcommand)

end Compilation

open Compilation

/-- Soundness and completeness of the gate: nothing unapproved is emitted, and nothing approved is held back. -/
theorem compile_emits_iff_approved {text : String} {lookup : ManifestLookup} {plan : Plan} :
    (compile text lookup).plan = some plan ↔
      ∃ spec manifest, Spec.parse text = .ok spec ∧ Manifest.resolve lookup spec.target = .ok manifest ∧
        GlobsRead spec manifest ∧ (spec.draft manifest).diagnostics = [] ∧
        Guardrail.claims spec (spec.draft manifest).steps = [] ∧ forestFindings spec = [] ∧
        Guardrail.decisions spec (decisionOf spec) (spec.draft manifest).steps = [] ∧
        Approved spec manifest (spec.draft manifest).steps ∧ plan = emitted text spec manifest := by
  rw [compile_plan_eq_some]
  constructor
  · rintro ⟨spec, manifest, policy, hspec, hmanifest, hpolicy, hsilent, hplan⟩
    obtain ⟨hallow, hdeny⟩ := manifest.exists_writePolicy_iff.1 ⟨policy, hpolicy⟩
    have hscopes := ((Guardrail.scopedPolicy_snd_eq_nil_iff spec policy).1
      ((Guardrail.effects_eq_nil_iff _ _ _).1 hsilent.effects).1).2
    exact ⟨spec, manifest, hspec, hmanifest, ⟨hallow, hdeny, hscopes⟩, hsilent.built, hsilent.claims, hsilent.forest,
      hsilent.decisions, approved_of_silent (Manifest.checked_of_resolve hmanifest) hpolicy hsilent, hplan⟩
  · rintro ⟨spec, manifest, hspec, hmanifest, hglobs, hbuilt, hclaims, hforest, hdecisions, happroved, hplan⟩
    obtain ⟨policy, hpolicy⟩ := manifest.exists_writePolicy_iff.2 ⟨hglobs.allow, hglobs.deny⟩
    refine ⟨spec, manifest, policy, hspec, hmanifest, hpolicy, ?_, hplan⟩
    exact {
      forest := hforest
      built := hbuilt
      effects := effects_eq_nil_of_approved hpolicy hglobs happroved
      commands := commands_eq_nil_of_approved (Manifest.checked_of_resolve hmanifest) happroved
      proofs := (Guardrail.proofs_eq_nil_iff _).2 happroved.proved
      claims := hclaims
      decisions := hdecisions
      artifacts := (Guardrail.artifacts_eq_nil_iff _ _).2 happroved.written }

end GuardedPlan
