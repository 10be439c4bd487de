import GuardedPlan.Proofs.Execution.Order
import GuardedPlan.Proofs.Json.Equality
import GuardedPlan.Proofs.Plan.Outline

/-!
# Requirements are advice

What a step requires decides nothing: it is carried into the plan, where only the pass on the order of requirements looks at it, and that pass never finds an error. So a spec without its requirements compiles to the same errors and, up to requirements and the hash, to the same plan. An execution looks at even less of a plan, at nothing of a step but its id, its operations and its checks.
-/

namespace GuardedPlan

/-! ### Without requirements -/

def AuthoredStep.withoutRequires (step : AuthoredStep) : AuthoredStep :=
  { step with requires := [] }

def Spec.withoutRequires (spec : Spec) : Spec :=
  { spec with steps := spec.steps.map fun steps => steps.map AuthoredStep.withoutRequires }

/-- The plan without what its steps require and without the hash of its spec. -/
def Plan.withoutRequires (plan : Plan) : Plan :=
  { plan with specHash := "", steps := plan.steps.map Step.withoutRequires }

/-- What an execution looks at in a step. -/
def Step.core (step : Step) : Step :=
  { step with requires := [], claims := [], decisions := [] }

/-- What an execution looks at in a plan. -/
def Plan.core (plan : Plan) : Plan :=
  { plan with specHash := "", steps := plan.steps.map Step.core }

/-- Two compilations that agree on whether there is a plan, on the errors in their order and on the plan up to requirements and the hash of the spec. -/
structure Compilation.Agree (first second : Compilation) : Prop where
  emits : first.plan.isSome = second.plan.isSome
  errors : first.diagnostics.filter Diagnostic.isError = second.diagnostics.filter Diagnostic.isError
  plan : first.plan.map Plan.withoutRequires = second.plan.map Plan.withoutRequires

theorem Compilation.Agree.refl (compilation : Compilation) : compilation.Agree compilation :=
  ⟨rfl, rfl, rfl⟩

theorem Spec.target_congr {spec other : Spec} (h : spec.withoutRequires = other.withoutRequires) :
    spec.target = other.target := by
  have htarget : spec.withoutRequires.target = other.withoutRequires.target := by rw [h]
  exact htarget

/-! ### Building steps -/

namespace Draft

theorem outline_ofAuthored (manifest : Manifest) (appDirectory : String) (steps : List AuthoredStep) :
    (ofAuthored manifest appDirectory (steps.map AuthoredStep.withoutRequires)).outline =
      (ofAuthored manifest appDirectory steps).outline := by
  rw [outline, outline, ofAuthored, ofAuthored, List.zipIdx_map, List.map_map, List.map_map, List.map_map]
  rfl

theorem diagnostics_ofAuthored (manifest : Manifest) (appDirectory : String) (steps : List AuthoredStep) :
    (ofAuthored manifest appDirectory (steps.map AuthoredStep.withoutRequires)).diagnostics =
      (ofAuthored manifest appDirectory steps).diagnostics := by
  rw [ofAuthored, ofAuthored, List.zipIdx_map, List.flatMap_map]
  rfl

end Draft

theorem Spec.draft_withoutRequires (spec : Spec) (manifest : Manifest) :
    (spec.withoutRequires.draft manifest).outline = (spec.draft manifest).outline ∧
      (spec.withoutRequires.draft manifest).diagnostics = (spec.draft manifest).diagnostics := by
  cases hsteps : spec.steps with
  | none =>
    have hsame : spec.withoutRequires = spec := by
      cases spec
      cases hsteps
      rfl
    rw [hsame]
    exact ⟨rfl, rfl⟩
  | some steps =>
    have hsome : spec.withoutRequires.steps = some (steps.map AuthoredStep.withoutRequires) := by
      rw [withoutRequires, hsteps]
      rfl
    have hchecks : spec.withoutRequires.verificationChecks = spec.verificationChecks := rfl
    have houtline := Draft.outline_ofAuthored manifest spec.appDirectory steps
    have hfound := Draft.diagnostics_ofAuthored manifest spec.appDirectory steps
    rw [draft, draft, hsteps, hsome, hchecks]
    cases spec.verificationChecks with
    | nil => exact ⟨houtline, hfound⟩
    | cons check rest =>
      dsimp only
      rw [Draft.outline_chain, Draft.outline_chain, Draft.diagnostics_chain, Draft.diagnostics_chain]
      exact ⟨congrArg (· ++ _) houtline, hfound⟩

/-! ### Passes -/

namespace Guardrail

/-- A pass finds the same in steps whatever they require. -/
def Ignores (pass : List Step → List Diagnostic) : Prop :=
  ∀ steps, pass (steps.map Step.withoutRequires) = pass steps

theorem Ignores.congr {pass : List Step → List Diagnostic} (h : Ignores pass) {steps others : List Step}
    (hsame : steps.map Step.withoutRequires = others.map Step.withoutRequires) : pass steps = pass others := by
  rw [← h steps, hsame, h others]

theorem ignores_flatMap_zipIdx {pass : Step × Nat → List Diagnostic}
    (h : ∀ step index, pass (step.withoutRequires, index) = pass (step, index)) :
    Ignores fun steps => steps.zipIdx.flatMap pass := by
  intro steps
  dsimp only
  rw [List.zipIdx_map, List.flatMap_map]
  exact congrArg (steps.zipIdx.flatMap ·) (funext fun item => h item.1 item.2)

theorem ignores_effects (spec : Spec) (policy : WritePolicy) : Ignores (effects spec policy) := by
  intro steps
  exact congrArg ((scopedPolicy spec policy).2 ++ ·) (ignores_flatMap_zipIdx (fun _ _ => rfl) steps)

theorem ignores_commands (policy : CommandsPolicy) : Ignores (commands policy) :=
  ignores_flatMap_zipIdx fun _ _ => rfl

theorem ignores_proofs : Ignores proofs :=
  ignores_flatMap_zipIdx fun _ _ => rfl

theorem ignores_claims (spec : Spec) : Ignores (claims spec) := by
  intro steps
  have hany : ∀ test : Step → Bool, (∀ step, test step.withoutRequires = test step) →
      (steps.map Step.withoutRequires).any test = steps.any test := by
    intro test htest
    rw [List.any_map]
    exact congrArg (steps.any ·) (funext htest)
  rw [claims, claims]
  by_cases hcurrent : spec.isCurrent = true
  · rw [if_pos hcurrent, if_pos hcurrent]
    cases invariantIds spec with
    | nil =>
      dsimp only
      rw [hany Step.hasOps fun _ => rfl]
    | cons id rest =>
      have hclaimed : ∀ id, (steps.map Step.withoutRequires).any (fun step => step.claims.contains id) =
          steps.any fun step => step.claims.contains id := fun id => hany _ fun _ => rfl
      dsimp only
      simp only [claimsAgainst_eq, hclaimed]
      exact congrArg (· ++ _) (ignores_flatMap_zipIdx (fun _ _ => rfl) steps)
  · rw [if_neg hcurrent, if_neg hcurrent]

theorem ignores_decisions (spec : Spec) (resolve : String → Option Decision) : Ignores (decisions spec resolve) := by
  intro steps
  exact congrArg (_ ++ ·) (ignores_flatMap_zipIdx (fun _ _ => rfl) steps)

theorem ignores_artifacts (spec : Spec) : Ignores (artifacts spec) := by
  intro steps
  have hwritten : written (steps.map Step.withoutRequires) = written steps := by
    rw [written, written, List.flatMap_map]
    rfl
  rw [artifacts, artifacts, hwritten]

end Guardrail

/-! ### Compilations -/

theorem hasErrors_eq (diagnostics : List Diagnostic) :
    hasErrors diagnostics = !(diagnostics.filter Diagnostic.isError).isEmpty := by
  induction diagnostics with
  | nil => rfl
  | cons d rest ih =>
    rw [hasErrors, List.any_cons, ← hasErrors, ih]
    cases herror : d.isError with
    | true => rw [List.filter_cons_of_pos herror, Bool.true_or, List.isEmpty_cons, Bool.not_false]
    | false => rw [List.filter_cons_of_neg (by simp [herror]), Bool.false_or]

namespace Compilation

/-- The errors of a compilation are those of all passes but the one on the order of requirements. -/
theorem errors_eq (spec : Spec) (manifest : Manifest) (policy : WritePolicy) :
    (findings spec manifest policy).filter Diagnostic.isError =
      (forestFindings spec ++ (spec.draft manifest).diagnostics ++
        Guardrail.effects spec policy (spec.draft manifest).steps ++
        Guardrail.commands manifest.commands (spec.draft manifest).steps ++
        Guardrail.proofs (spec.draft manifest).steps ++ Guardrail.claims spec (spec.draft manifest).steps ++
        Guardrail.decisions spec (decisionOf spec) (spec.draft manifest).steps ++
        Guardrail.artifacts spec (spec.draft manifest).steps).filter Diagnostic.isError := by
  have hnone := Guardrail.hasErrors_requiresOrder (spec.draft manifest).steps
  rw [hasErrors_eq, Bool.not_eq_false', List.isEmpty_iff] at hnone
  rw [findings_eq, List.filter_append, hnone, List.append_nil]

theorem errors_withoutRequires (spec : Spec) (manifest : Manifest) (policy : WritePolicy) :
    (findings spec.withoutRequires manifest policy).filter Diagnostic.isError =
      (findings spec manifest policy).filter Diagnostic.isError := by
  obtain ⟨houtline, hbuilt⟩ := spec.draft_withoutRequires manifest
  have heffects : Guardrail.effects spec.withoutRequires policy (spec.withoutRequires.draft manifest).steps =
      Guardrail.effects spec policy (spec.draft manifest).steps := (Guardrail.ignores_effects spec policy).congr houtline
  have hclaims : Guardrail.claims spec.withoutRequires (spec.withoutRequires.draft manifest).steps =
      Guardrail.claims spec (spec.draft manifest).steps := (Guardrail.ignores_claims spec).congr houtline
  have hdecisions : Guardrail.decisions spec.withoutRequires (decisionOf spec.withoutRequires)
      (spec.withoutRequires.draft manifest).steps =
        Guardrail.decisions spec (decisionOf spec) (spec.draft manifest).steps :=
    (Guardrail.ignores_decisions spec (decisionOf spec)).congr houtline
  have hartifacts : Guardrail.artifacts spec.withoutRequires (spec.withoutRequires.draft manifest).steps =
      Guardrail.artifacts spec (spec.draft manifest).steps := (Guardrail.ignores_artifacts spec).congr houtline
  have hforest : forestFindings spec.withoutRequires = forestFindings spec := rfl
  rw [errors_eq, errors_eq, hforest, hbuilt, heffects, (Guardrail.ignores_commands manifest.commands).congr houtline,
    Guardrail.ignores_proofs.congr houtline, hclaims, hdecisions, hartifacts]

/-- The errors of a compilation do not depend on requirements. -/
theorem errors_congr {spec other : Spec} (h : spec.withoutRequires = other.withoutRequires) (manifest : Manifest)
    (policy : WritePolicy) :
    (findings spec manifest policy).filter Diagnostic.isError =
      (findings other manifest policy).filter Diagnostic.isError := by
  rw [← errors_withoutRequires spec, h, errors_withoutRequires]

theorem agree_ofSpec {spec other : Spec} (h : spec.withoutRequires = other.withoutRequires) (text second : String)
    (manifest : Manifest) (policy : WritePolicy) :
    (ofSpec text spec manifest policy).Agree (ofSpec second other manifest policy) := by
  have herrors := errors_congr h manifest policy
  have hhas : hasErrors (findings spec manifest policy) = hasErrors (findings other manifest policy) := by
    rw [hasErrors_eq, hasErrors_eq, herrors]
  have houtline : (spec.draft manifest).outline = (other.draft manifest).outline := by
    rw [← (spec.draft_withoutRequires manifest).1, h, (other.draft_withoutRequires manifest).1]
  have htarget := Spec.target_congr h
  have hplan : (emitted text spec manifest).withoutRequires = (emitted second other manifest).withoutRequires := by
    rw [Plan.withoutRequires, Plan.withoutRequires, emitted, emitted, htarget, ← Draft.outline, houtline]
    rfl
  rw [ofSpec, ofSpec, hhas]
  cases hasErrors (findings other manifest policy) with
  | true => exact ⟨rfl, herrors, rfl⟩
  | false => exact ⟨rfl, herrors, congrArg some hplan⟩

theorem agree_compile {text second : String} {spec other : Spec} (hspec : Spec.parse text = .ok spec)
    (hother : Spec.parse second = .ok other) (h : spec.withoutRequires = other.withoutRequires)
    (lookup : ManifestLookup) : (compile text lookup).Agree (compile second lookup) := by
  have htarget := Spec.target_congr h
  unfold compile
  rw [hspec, hother]
  dsimp only
  rw [htarget]
  cases Manifest.resolve lookup other.target with
  | error d => exact .refl _
  | ok manifest =>
    dsimp only
    cases manifest.writePolicy with
    | error bad => exact .refl _
    | ok policy => exact agree_ofSpec h text second manifest policy

end Compilation

/-! ### Executions -/

namespace Plan

variable {σ : Type}

theorem problems_core (plan : Plan) (writes : WritePolicy) (commands : CommandsPolicy) :
    plan.core.problems writes commands = plan.problems writes commands := by
  rw [problems, problems, core, List.flatMap_map]
  rfl

theorem preflight_core (plan : Plan) (lookup : ManifestLookup) : plan.core.preflight lookup = plan.preflight lookup := by
  rw [preflight, preflight]
  simp only [problems_core]
  rfl

theorem runSteps_map_core (performer : Performer σ) (steps : List Step) (world : World σ) :
    runSteps performer (steps.map Step.core) world = runSteps performer steps world := by
  induction steps generalizing world with
  | nil => rfl
  | cons step rest ih =>
    have hitems : performAll performer step.core.id step.core.items (world.record (.began step.core.id)) =
        performAll performer step.id step.items (world.record (.began step.id)) := rfl
    rw [List.map_cons, runSteps, runSteps, hitems]
    simp only [ih]
    rfl

/-- An execution looks at nothing of a plan but its core. -/
theorem execute_core (plan : Plan) (host : Host σ) (world : World σ) :
    plan.core.execute host world = plan.execute host world := by
  rw [execute, execute, preflight_core]
  cases plan.preflight (host.registry.manifests world.tree) with
  | error rejection => rfl
  | ok manifest => exact runSteps_map_core _ plan.steps world

end Plan

/-- Specs that differ in requirements alone compile to the same errors and to plans that differ in requirements and the hash alone; plans that differ in requirements, claims, decisions and the hash alone are executed in the same way. -/
theorem requires_advisory :
    (∀ spec other : Spec, spec.withoutRequires = other.withoutRequires →
      (∀ text second manifest policy, (Compilation.ofSpec text spec manifest policy).Agree
        (Compilation.ofSpec second other manifest policy)) ∧
      ∀ text second lookup, Spec.parse text = .ok spec → Spec.parse second = .ok other →
        (compile text lookup).Agree (compile second lookup)) ∧
    ∀ plan other : Plan, plan.core = other.core → ∀ (σ : Type) (host : Host σ) (world : World σ),
      plan.execute host world = other.execute host world := by
  refine ⟨fun spec other h => ⟨Compilation.agree_ofSpec h, fun text second lookup hspec hother =>
    Compilation.agree_compile hspec hother h lookup⟩, fun plan other h σ host world => ?_⟩
  rw [← plan.execute_core, h, other.execute_core]

deriving instance DecidableEq for AuthoredStep, Spec

namespace Sample

/-- A spec with a step that requires a later one. -/
def forward : String :=
  "version: 1\ntarget: t\nproject:\n  name: n\nsteps:\n- id: a\n  requires: [b]\n- id: b\n"

/-- The spec with requirements in order. -/
def backward : String :=
  "version: 1\ntarget: t\nproject:\n  name: n\nsteps:\n- id: a\n- id: b\n  requires: [a]\n"

/-- The plan of the samples with requirements, claims and decisions that it need not have. -/
def annotated : Plan :=
  { plan with
    specHash := ""
    steps := plan.steps.map fun step => { step with requires := ["a"], claims := ["A"], decisions := ["D"] } }

theorem compiled_forward :
    (Spec.parse forward).toOption.isSome = true ∧
      (Spec.parse forward).toOption.map Spec.withoutRequires =
        (Spec.parse backward).toOption.map Spec.withoutRequires ∧
      (compile forward lookup).plan.isSome = true ∧
      (compile forward lookup).diagnostics.map Diagnostic.code = [.requiresOrder] ∧
      (compile backward lookup).diagnostics = [] := by
  decide +kernel

end Sample

theorem requires_advisory_sample :
    (compile Sample.forward Sample.lookup).plan.isSome = true ∧
      (compile Sample.forward Sample.lookup).diagnostics.map Diagnostic.code = [.requiresOrder] ∧
      (compile Sample.backward Sample.lookup).diagnostics = [] ∧
      (compile Sample.forward Sample.lookup).Agree (compile Sample.backward Sample.lookup) ∧
      Sample.plan ≠ Sample.annotated ∧ Sample.plan.core = Sample.annotated.core ∧
      Sample.plan.execute Sample.host ⟨.empty, (), []⟩ = Sample.annotated.execute Sample.host ⟨.empty, (), []⟩ := by
  obtain ⟨hparsed, hsame, hplan, hwarned, hsilent⟩ := Sample.compiled_forward
  obtain ⟨spec, hspec⟩ := Option.isSome_iff_exists.1 hparsed
  rw [hspec, Option.map_some, eq_comm, Option.map_eq_some_iff] at hsame
  obtain ⟨other, hother, hrequires⟩ := hsame
  obtain ⟨hcompiles, hexecutes⟩ := requires_advisory
  have hcore : Sample.plan.core = Sample.annotated.core := rfl
  exact ⟨hplan, hwarned, hsilent,
    (hcompiles spec other hrequires.symm).2 _ _ _ (Except.toOption_eq_some_iff.1 hspec)
      (Except.toOption_eq_some_iff.1 hother),
    by decide, hcore, hexecutes _ _ hcore Unit Sample.host ⟨.empty, (), []⟩⟩

end GuardedPlan
