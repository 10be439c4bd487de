import GuardedPlan.Proofs.Compile.Emission
import GuardedPlan.Proofs.Plan.Outline
import GuardedPlan.Proofs.Spec.Checked

/-!
# Claims behind a plan

Under version 2 every step that does something claims an invariant, and every declared invariant is claimed. Both follow from one pass over the claims, which has a way out: a spec without invariants is only asked whether any step has operations. So the claims of steps that merely check are compared with the declared invariants when there is one to compare them with, and otherwise stand in the plan as their author wrote them.
-/

namespace GuardedPlan

def Spec.Declares (spec : Spec) (id : String) : Prop :=
  ∃ invariant ∈ spec.invariants, invariant.id = id

/-! ### The pass over claims -/

namespace Guardrail

theorem stepClaims_eq_nil_iff {ids : List String} {index : Nat} {step : Step} :
    stepClaims ids index step = [] ↔
      (step.ops ≠ [] → step.claims ≠ []) ∧ ∀ claim ∈ step.claims, claim ∈ ids := by
  simp [stepClaims, Step.hasOps]

variable {spec : Spec} {steps : List Step}

/-- Without invariants only operations are held against a step. -/
theorem claims_eq_nil_iff_of_undeclared (hcurrent : spec.isCurrent = true) (hnone : spec.invariants = []) :
    claims spec steps = [] ↔ ∀ step ∈ steps, step.ops = [] := by
  have hids : invariantIds spec = [] := by
    rw [invariantIds, hnone]
    rfl
  rw [claims, if_pos hcurrent, hids]
  simp [Step.hasOps]

theorem claims_eq_nil_iff_of_declared (hcurrent : spec.isCurrent = true) (hsome : spec.invariants ≠ []) :
    claims spec steps = [] ↔
      (∀ step ∈ steps, (step.ops ≠ [] → step.claims ≠ []) ∧ ∀ claim ∈ step.claims, spec.Declares claim) ∧
        ∀ invariant ∈ spec.invariants, ∃ step ∈ steps, invariant.id ∈ step.claims := by
  have hmem : ∀ id, id ∈ invariantIds spec ↔ spec.Declares id := fun id => mem_invariantIds_iff
  rw [claims, if_pos hcurrent]
  split
  · rename_i hids
    obtain ⟨invariant, hinvariant⟩ := List.exists_mem_of_ne_nil _ hsome
    have hdeclared := (hmem invariant.id).2 ⟨invariant, hinvariant, rfl⟩
    rw [hids] at hdeclared
    cases hdeclared
  · rw [claimsAgainst_eq, List.append_eq_nil_iff, flatMap_zipIdx_eq_nil_iff fun step index => stepClaims_eq_nil_iff]
    simp only [hmem, List.map_eq_nil_iff, List.filter_eq_nil_iff, Bool.not_eq_true', Bool.not_eq_false,
      List.any_eq_true, List.contains_iff_mem]
    refine and_congr_right fun _ => ?_
    constructor
    · intro hclaimed invariant hinvariant
      exact hclaimed invariant.id ⟨invariant, hinvariant, rfl⟩
    · rintro hclaimed id ⟨invariant, hinvariant, rfl⟩
      exact hclaimed invariant hinvariant

end Guardrail

/-! ### Claims of the authored steps -/

theorem Draft.forall_claims_ofAuthored_iff {steps : List AuthoredStep} {P : String → Prop} (manifest : Manifest)
    (appDirectory : String) :
    (∀ step ∈ (ofAuthored manifest appDirectory steps).steps, ∀ claim ∈ step.claims, P claim) ↔
      ∀ step ∈ steps, ∀ claim ∈ step.claims, P claim := by
  rw [ofAuthored, List.forall_mem_map]
  constructor
  · intro h step hstep
    obtain ⟨index, hmem⟩ := exists_mem_zipIdx hstep
    exact h _ hmem
  · rintro h ⟨step, index⟩ hmem
    exact h step (List.fst_mem_of_mem_zipIdx hmem)

theorem Draft.forall_claims_chain_iff {P : String → Prop} (draft : Draft) (step : Step) :
    (∀ other ∈ (draft.chain step).steps, ∀ claim ∈ other.claims, P claim) ↔
      (∀ other ∈ draft.steps, ∀ claim ∈ other.claims, P claim) ∧ ∀ claim ∈ step.claims, P claim := by
  exact forall_steps_chain_iff (fun _ => Iff.rfl) draft step

/-- The claims of a plan are those of the authored steps: the step that verifies the documentation has none. -/
theorem Spec.forall_claims_draft_iff {spec : Spec} {steps : List AuthoredStep} {P : String → Prop}
    (hsteps : spec.steps = some steps) (manifest : Manifest) :
    (∀ step ∈ (spec.draft manifest).steps, ∀ claim ∈ step.claims, P claim) ↔
      ∀ step ∈ steps, ∀ claim ∈ step.claims, P claim := by
  obtain ⟨built, hbuilt, hdraft⟩ := spec.draft_cases manifest
  rcases hbuilt with ⟨authored, hauthored, rfl⟩ | ⟨hnone, _⟩
  · rw [hsteps] at hauthored
    cases hauthored
    rcases hdraft with ⟨-, hdraft⟩ | ⟨-, hdraft⟩
    · rw [hdraft, Draft.forall_claims_ofAuthored_iff]
    · rw [hdraft, Draft.forall_claims_chain_iff, Draft.forall_claims_ofAuthored_iff]
      simp
  · rw [hsteps] at hnone
    cases hnone

/-! ### Emitted plans -/

section

variable {text : String} {lookup : ManifestLookup} {spec : Spec} {plan : Plan}

/-- A plan that was emitted for a spec has the steps built for it, and the pass over their claims was silent. -/
theorem claims_eq_nil_of_compile (hspec : Spec.parse text = .ok spec)
    (hcompile : (compile text lookup).plan = some plan) :
    Guardrail.claims spec plan.steps = [] ∧ ∃ manifest, plan.steps = (spec.draft manifest).steps := by
  obtain ⟨found, manifest, _, hfound, _, _, hsilent, rfl⟩ := compile_plan_eq_some.1 hcompile
  have hsame : found = spec := by
    rw [hspec] at hfound
    exact (Except.ok.inj hfound).symm
  subst hsame
  exact ⟨hsilent.claims, manifest, rfl⟩

theorem isCurrent_of_version (hversion : spec.version = 2) : spec.isCurrent = true := by
  rw [Spec.isCurrent, hversion]
  rfl

/-- Every claim of an emitted plan is a declared invariant exactly when the spec declares one at all or its steps claim nothing. Without invariants the plan has no operations, and its claims are whatever the author wrote. -/
theorem claims_resolve_iff_of_compile (hspec : Spec.parse text = .ok spec) (hversion : spec.version = 2)
    (hcompile : (compile text lookup).plan = some plan) :
    ∃ steps, spec.steps = some steps ∧
      ((∀ step ∈ plan.steps, ∀ claim ∈ step.claims, spec.Declares claim) ↔
        spec.invariants ≠ [] ∨ ∀ step ∈ steps, step.claims = []) ∧
      (spec.invariants = [] → ∀ step ∈ plan.steps, step.ops = []) := by
  obtain ⟨steps, hsteps⟩ := Spec.exists_steps_of_parse hspec hversion
  obtain ⟨hsilent, manifest, hbuilt⟩ := claims_eq_nil_of_compile hspec hcompile
  have hcurrent : spec.isCurrent = true := isCurrent_of_version hversion
  refine ⟨steps, hsteps, ?_, fun hnone => (Guardrail.claims_eq_nil_iff_of_undeclared hcurrent hnone).1 hsilent⟩
  by_cases hinvariants : spec.invariants = []
  · have hnone : ∀ claim, ¬ spec.Declares claim := by
      rintro claim ⟨invariant, hinvariant, _⟩
      rw [hinvariants] at hinvariant
      cases hinvariant
    rw [hbuilt, Spec.forall_claims_draft_iff hsteps]
    simp [hinvariants, hnone, List.eq_nil_iff_forall_not_mem]
  · have hresolved := ((Guardrail.claims_eq_nil_iff_of_declared hcurrent hinvariants).1 hsilent).1
    exact ⟨fun _ => .inl hinvariants, fun _ step hstep => (hresolved step hstep).2⟩

/-- Whatever a plan does is done for an invariant, and every invariant is claimed by some step. -/
theorem claims_cover_of_compile (hspec : Spec.parse text = .ok spec) (hversion : spec.version = 2)
    (hcompile : (compile text lookup).plan = some plan) :
    (∀ step ∈ plan.steps, step.ops ≠ [] → step.claims ≠ []) ∧
      ((∃ step ∈ plan.steps, step.ops ≠ []) → spec.invariants ≠ []) ∧
      ∀ invariant ∈ spec.invariants, ∃ step ∈ plan.steps, invariant.id ∈ step.claims := by
  obtain ⟨hsilent, _⟩ := claims_eq_nil_of_compile hspec hcompile
  have hcurrent : spec.isCurrent = true := isCurrent_of_version hversion
  by_cases hinvariants : spec.invariants = []
  · have hidle := (Guardrail.claims_eq_nil_iff_of_undeclared hcurrent hinvariants).1 hsilent
    refine ⟨fun step hstep hops => absurd (hidle step hstep) hops, ?_, ?_⟩
    · rintro ⟨step, hstep, hops⟩
      exact absurd (hidle step hstep) hops
    · intro invariant hinvariant
      rw [hinvariants] at hinvariant
      cases hinvariant
  · obtain ⟨hsteps, hcovered⟩ := (Guardrail.claims_eq_nil_iff_of_declared hcurrent hinvariants).1 hsilent
    exact ⟨fun step hstep => (hsteps step hstep).1, fun _ => hinvariants, hcovered⟩

end

/-! ### A spec that claims an invariant and one that has none -/

namespace Sample

/-- A spec with an invariant and a step that claims it. -/
def claimedText : String :=
  "version: 2\ntarget: t\nproject:\n  name: n\nsteps:\n- id: s\n  actions:\n  - run: go\n  ensures:\n  - cmdOk: go\n" ++
    "  claims: [A]\nintent:\n  summary: x\n  invariants:\n  - id: A\n    text: y\n"

/-- A spec without invariants and a step that claims one all the same. -/
def unfoundedText : String :=
  "version: 2\ntarget: t\nproject:\n  name: n\nsteps:\n- id: s\n  claims: [A]\n"

/-- What a text is read as, as far as claims are concerned. -/
def outline (text : String) : Option (Nat × List String × Option (List (List String))) :=
  (Spec.parse text).toOption.map fun spec =>
    (spec.version, spec.invariants.map Invariant.id, spec.steps.map fun steps => steps.map AuthoredStep.claims)

theorem outline_of_parse {text : String} {spec : Spec} {version : Nat} {ids : List String}
    {claims : Option (List (List String))} (hspec : Spec.parse text = .ok spec)
    (houtline : outline text = some (version, ids, claims)) :
    spec.version = version ∧ spec.invariants.map Invariant.id = ids ∧
      (spec.steps.map fun steps => steps.map AuthoredStep.claims) = claims := by
  simpa [outline, hspec, Except.toOption] using houtline

theorem compiled_claimedText :
    (compile claimedText lookup).plan.isSome = true ∧ outline claimedText = some (2, ["A"], some [["A"]]) := by
  decide +kernel

theorem compiled_unfoundedText :
    (compile unfoundedText lookup).plan.isSome = true ∧ outline unfoundedText = some (2, [], some [["A"]]) := by
  decide +kernel

end Sample

theorem claims_resolve_iff_of_compile_samples :
    (∃ spec plan, Spec.parse Sample.claimedText = .ok spec ∧
      (compile Sample.claimedText Sample.lookup).plan = some plan ∧
      ∀ step ∈ plan.steps, ∀ claim ∈ step.claims, spec.Declares claim) ∧
    ∃ spec plan, Spec.parse Sample.unfoundedText = .ok spec ∧
      (compile Sample.unfoundedText Sample.lookup).plan = some plan ∧
      ¬ ∀ step ∈ plan.steps, ∀ claim ∈ step.claims, spec.Declares claim := by
  refine ⟨?_, ?_⟩
  · obtain ⟨plan, hplan⟩ := Option.isSome_iff_exists.1 Sample.compiled_claimedText.1
    obtain ⟨spec, _, _, hspec, _⟩ := compile_plan_eq_some.1 hplan
    obtain ⟨hversion, hids, _⟩ := Sample.outline_of_parse hspec Sample.compiled_claimedText.2
    obtain ⟨_, _, hresolve, _⟩ := claims_resolve_iff_of_compile hspec hversion hplan
    refine ⟨spec, plan, hspec, hplan, hresolve.2 (.inl ?_)⟩
    rintro hnone
    simp [hnone] at hids
  · obtain ⟨plan, hplan⟩ := Option.isSome_iff_exists.1 Sample.compiled_unfoundedText.1
    obtain ⟨spec, _, _, hspec, _⟩ := compile_plan_eq_some.1 hplan
    obtain ⟨hversion, hids, hclaims⟩ := Sample.outline_of_parse hspec Sample.compiled_unfoundedText.2
    obtain ⟨steps, hsteps, hresolve, _⟩ := claims_resolve_iff_of_compile hspec hversion hplan
    refine ⟨spec, plan, hspec, hplan, fun hall => ?_⟩
    have hlisted : steps.map AuthoredStep.claims = [["A"]] := by simpa [hsteps] using hclaims
    obtain ⟨step, hstep, hclaim⟩ := List.mem_map.1 (hlisted ▸ List.mem_singleton.2 rfl)
    rcases hresolve.1 hall with hsome | hidle
    · exact hsome (List.map_eq_nil_iff.1 hids)
    · rw [hidle step hstep] at hclaim
      cases hclaim

theorem claims_cover_of_compile_sample :
    ∃ spec plan, Spec.parse Sample.claimedText = .ok spec ∧
      (compile Sample.claimedText Sample.lookup).plan = some plan ∧
      (∀ step ∈ plan.steps, step.ops ≠ [] → step.claims ≠ []) ∧
      ((∃ step ∈ plan.steps, step.ops ≠ []) → spec.invariants ≠ []) ∧
      ∀ invariant ∈ spec.invariants, ∃ step ∈ plan.steps, invariant.id ∈ step.claims := by
  obtain ⟨plan, hplan⟩ := Option.isSome_iff_exists.1 Sample.compiled_claimedText.1
  obtain ⟨spec, _, _, hspec, _⟩ := compile_plan_eq_some.1 hplan
  obtain ⟨hversion, _, _⟩ := Sample.outline_of_parse hspec Sample.compiled_claimedText.2
  exact ⟨spec, plan, hspec, hplan, claims_cover_of_compile hspec hversion hplan⟩

end GuardedPlan
