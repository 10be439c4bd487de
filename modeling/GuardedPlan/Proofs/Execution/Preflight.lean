import GuardedPlan.Execution.Run
import GuardedPlan.Proofs.Compile.Emission
import GuardedPlan.Proofs.Policy.Permission

/-!
# Preflight of emitted plans

The compiler judges the steps of a draft under the policy of the manifest confined to the scopes of the spec; the executor judges the steps of the plan under the policy of the manifest alone, in loops of its own. The executor never finds more: the steps and the manifest are the same, and a policy only loses violations when its scopes are taken away.
-/

namespace GuardedPlan

/-! ### What preflight asks -/

theorem Step.problems_eq_nil_iff (step : Step) (writes : WritePolicy) (commands : CommandsPolicy) :
    step.problems writes commands = [] ↔ (∀ target ∈ step.targets, writes.violations target = []) ∧
      ∀ command ∈ step.commands, commands.violations command = [] := by
  simp only [problems, List.append_eq_nil_iff, List.flatMap_eq_nil_iff, List.map_eq_nil_iff]

theorem Plan.problems_eq_nil_iff (plan : Plan) (writes : WritePolicy) (commands : CommandsPolicy) :
    plan.problems writes commands = [] ↔
      ∀ step ∈ plan.steps, (∀ target ∈ step.targets, writes.violations target = []) ∧
        ∀ command ∈ step.commands, commands.violations command = [] := by
  simp only [problems, List.flatMap_eq_nil_iff, Step.problems_eq_nil_iff]

/-- Preflight accepts a plan of the language under the manifest of its target, of the version it was compiled for, when that manifest permits all its steps. -/
theorem Plan.preflight_eq_ok_iff {plan : Plan} {lookup : ManifestLookup} {manifest : Manifest} :
    plan.preflight lookup = .ok manifest ↔
      plan.lang = language ∧ Manifest.resolve lookup plan.target = .ok manifest ∧
        manifest.presetVersion = plan.presetVersion ∧
        ∃ writes, manifest.writePolicy = .ok writes ∧ plan.problems writes manifest.commands = [] := by
  by_cases hlang : plan.lang = language
  case neg => simp [preflight, hlang]
  cases htarget : Manifest.resolve lookup plan.target with
  | error finding => simp [preflight, hlang, htarget]
  | ok found =>
    simp only [preflight, hlang, htarget, ne_eq, not_true, if_false, true_and, Except.ok.injEq]
    by_cases hpreset : found.presetVersion = plan.presetVersion
    case neg =>
      rw [if_pos hpreset]
      constructor
      · intro hok
        cases hok
      · rintro ⟨rfl, hversion, _⟩
        exact absurd hversion hpreset
    rw [if_neg (not_not_intro hpreset)]
    cases hwrites : found.writePolicy with
    | error bad =>
      constructor
      · intro hok
        cases hok
      · rintro ⟨rfl, _, writes, hgiven, _⟩
        rw [hwrites] at hgiven
        cases hgiven
    | ok writes =>
      dsimp only
      cases hproblems : plan.problems writes found.commands with
      | nil =>
        simp only [Except.ok.injEq]
        refine ⟨?_, fun h => h.1⟩
        rintro rfl
        exact ⟨rfl, hpreset, writes, hwrites, hproblems⟩
      | cons first rest =>
        constructor
        · intro hok
          cases hok
        · rintro ⟨rfl, _, given, hgiven, hnone⟩
          rw [hwrites] at hgiven
          cases hgiven
          rw [hproblems] at hnone
          cases hnone

/-! ### Two gates that agree -/

/-- What the compiler lets through under scopes, the policy of the manifest lets through without them. -/
theorem Guardrail.unscoped_of_effects_eq_nil {spec : Spec} {manifest : Manifest} {policy : WritePolicy}
    {steps : List Step} (hpolicy : manifest.writePolicy = .ok policy) (h : effects spec policy steps = []) :
    ∀ step ∈ steps, ∀ target ∈ step.targets, policy.violations target = [] := by
  obtain ⟨hscopes, htargets⟩ := (effects_eq_nil_iff spec policy steps).1 h
  intro step hstep target htarget
  have hsilent := htargets step hstep target htarget
  rcases scopedPolicy_fst_of_snd_eq_nil hscopes with ⟨_, hsame⟩ | ⟨scopes, globs, _, _, hconfined⟩
  · rwa [hsame] at hsilent
  · rw [hconfined] at hsilent
    exact WritePolicy.violations_unscoped (WritePolicy.ofEffects_eq_ok_iff.1 hpolicy).2.2 hsilent

theorem Compilation.preflight_emitted {text : String} {spec : Spec} {lookup : ManifestLookup} {manifest : Manifest}
    {policy : WritePolicy} (hmanifest : Manifest.resolve lookup spec.target = .ok manifest)
    (hpolicy : manifest.writePolicy = .ok policy) (hsilent : Silent spec manifest policy) :
    (emitted text spec manifest).preflight lookup = .ok manifest := by
  rw [Plan.preflight_eq_ok_iff]
  refine ⟨rfl, hmanifest, rfl, policy, hpolicy, ?_⟩
  rw [Plan.problems_eq_nil_iff]
  intro step hstep
  exact ⟨Guardrail.unscoped_of_effects_eq_nil hpolicy hsilent.effects step hstep,
    (Guardrail.commands_eq_nil_iff _ _).1 hsilent.commands step hstep⟩

/-- Past preflight, an execution is the run of the steps, which rejects nothing. -/
theorem runSteps_ne_rejected {σ : Type} (host : Host σ) (target : String) (manifest : Manifest) (steps : List Step)
    (world : World σ) (rejection : Rejection) :
    (runSteps (host.performer target manifest) steps world).1 ≠ .error (.rejected rejection) := by
  induction steps generalizing world with
  | nil => simp [runSteps]
  | cons step rest ih =>
    rw [runSteps]
    rcases performAll (host.performer target manifest) step.id step.items (world.record (.began step.id)) with
      ⟨fault | done, after⟩
    · simp
    · dsimp only
      have hrest := ih after
      rcases hrun : runSteps (host.performer target manifest) rest after with ⟨failure | count, final⟩
      · rw [hrun] at hrest
        exact hrest
      · simp

/-- The executor accepts every plan that the compiler emits, as long as the registry answers both of them alike. -/
theorem preflight_of_compile {text : String} {lookup : ManifestLookup} {plan : Plan}
    (hcompile : (compile text lookup).plan = some plan) :
    (∃ manifest, Manifest.resolve lookup plan.target = .ok manifest ∧ plan.preflight lookup = .ok manifest) ∧
      ∀ {σ : Type} (host : Host σ) (world : World σ), host.registry.manifests world.tree = lookup →
        ∀ rejection, (plan.execute host world).1 ≠ .error (.rejected rejection) := by
  obtain ⟨spec, manifest, policy, _, hmanifest, hpolicy, hsilent, rfl⟩ := compile_plan_eq_some.1 hcompile
  have hpreflight : (Compilation.emitted text spec manifest).preflight lookup = .ok manifest :=
    Compilation.preflight_emitted hmanifest hpolicy hsilent
  refine ⟨⟨manifest, hmanifest, hpreflight⟩, fun host world hlookup rejection => ?_⟩
  rw [Plan.execute, hlookup, hpreflight]
  exact runSteps_ne_rejected _ _ _ _ _ _

theorem preflight_of_compile_sample :
    ∃ plan, (compile Sample.text Sample.lookup).plan = some plan ∧
      (∃ manifest, Manifest.resolve Sample.lookup plan.target = .ok manifest ∧
        plan.preflight Sample.lookup = .ok manifest) ∧
      ∀ {σ : Type} (host : Host σ) (world : World σ), host.registry.manifests world.tree = Sample.lookup →
        ∀ rejection, (plan.execute host world).1 ≠ .error (.rejected rejection) :=
  ⟨Sample.plan, Sample.compile_text, preflight_of_compile Sample.compile_text⟩

end GuardedPlan
