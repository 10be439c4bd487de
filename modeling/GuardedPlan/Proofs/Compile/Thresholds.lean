import GuardedPlan.Plan.Build
import GuardedPlan.Proofs.Base.Lists
import GuardedPlan.Proofs.Plan.Outline
import GuardedPlan.Proofs.Plan.Shape
import GuardedPlan.Proofs.Spec.Checked

/-!
# Thresholds on their way into a plan

Fuzzy checks come from the ensures of authored steps and from the documentation section. The schema of specs bounds the thresholds of the second kind and nothing bounds those of the first, so the steps of a plan can be stored exactly when every fuzzy ensure that sets a threshold sets one of the unit interval.
-/

namespace GuardedPlan

/-- A step that the schema of plans accepts: its id is not empty and its thresholds are bounded. -/
def Step.Storable (step : Step) : Prop :=
  step.id ≠ "" ∧ ∀ check ∈ step.checks, check.Bounded

/-- A fuzzy ensure sets no threshold, or one of the unit interval. -/
def Ensure.Bounded : Ensure → Prop
  | docResembles _ _ (some threshold) _ => threshold.InUnit
  | _ => True

/-- Every ensure of the authored steps that can be read is bounded. -/
def Spec.EnsuresBounded (spec : Spec) : Prop :=
  ∀ steps, spec.steps = some steps → ∀ step ∈ steps, ∀ raw ∈ step.ensures, ∀ ensure,
    Ensure.decode raw = .ok ensure → ensure.Bounded

theorem Check.inUnit_defaultThreshold : defaultThreshold.InUnit := by
  constructor <;> decide +kernel

/-! ### Checks -/

theorem Ensure.bounded_check_iff (appDirectory : String) (ensure : Ensure) :
    (ensure.check appDirectory).Bounded ↔ ensure.Bounded := by
  cases ensure with
  | docResembles path text threshold gate =>
    cases threshold with
    | none =>
      simp only [check, Option.getD_none, Check.Bounded, Bounded, iff_true]
      exact Check.inUnit_defaultThreshold
    | some threshold => exact Iff.rfl
  | _ => exact Iff.rfl

theorem TextDemand.bounded_check {demand : TextDemand}
    (h : ∀ threshold, demand.threshold = some threshold → threshold.InUnit) : demand.check.Bounded := by
  rw [check]
  cases demand.mode with
  | literal => trivial
  | fuzzy =>
    cases hthreshold : demand.threshold with
    | none =>
      simp only [Option.getD_none, Check.Bounded]
      exact Check.inUnit_defaultThreshold
    | some threshold => exact h threshold hthreshold

theorem Docs.bounded_checks {docs : Docs}
    (h : ∀ demand ∈ docs.expect, ∀ threshold, demand.threshold = some threshold → threshold.InUnit) :
    ∀ check ∈ docs.checks, check.Bounded := by
  intro check hcheck
  rcases List.mem_append.1 hcheck with hcheck | hcheck
  · rcases List.mem_append.1 hcheck with hcheck | hcheck
    · obtain ⟨path, _, rfl⟩ := List.mem_map.1 hcheck
      trivial
    · obtain ⟨demand, _, rfl⟩ := List.mem_map.1 hcheck
      trivial
  · obtain ⟨demand, hdemand, rfl⟩ := List.mem_map.1 hcheck
    exact TextDemand.bounded_check (h demand hdemand)

theorem Spec.bounded_verificationChecks {spec : Spec} (hchecked : spec.Checked) :
    ∀ check ∈ spec.verificationChecks, check.Bounded := by
  intro check hcheck
  rcases List.mem_append.1 hcheck with hcheck | hcheck
  · cases hdocs : spec.docs with
    | none =>
      rw [hdocs] at hcheck
      cases hcheck
    | some docs =>
      rw [hdocs] at hcheck
      exact Docs.bounded_checks (hchecked.thresholds docs hdocs) check hcheck
  · cases hartifacts : spec.artifacts with
    | none =>
      rw [hartifacts] at hcheck
      cases hcheck
    | some required =>
      rw [hartifacts] at hcheck
      obtain ⟨artifact, _, rfl⟩ := List.mem_map.1 hcheck
      trivial

/-! ### Steps -/

theorem AuthoredStep.mem_planned_checks_iff {manifest : Manifest} {appDirectory : String} {index : Nat}
    {step : AuthoredStep} {check : Check} :
    check ∈ (step.planned manifest appDirectory index).checks ↔
      ∃ raw ∈ step.ensures, ∃ ensure, Ensure.decode raw = .ok ensure ∧ check = ensure.check appDirectory := by
  have hkept : ∀ (location : String) (raw : Json), kept? (ensureCheck appDirectory step.id location raw) = some check ↔
      ∃ ensure, Ensure.decode raw = .ok ensure ∧ check = ensure.check appDirectory := by
    intro location raw
    rw [ensureCheck]
    cases Ensure.decode raw <;> simp [kept?, eq_comm]
  rw [planned, ensureChecks, List.filterMap_map, List.mem_filterMap]
  simp only [Function.comp_apply, hkept]
  constructor
  · rintro ⟨⟨raw, entry⟩, hentry, hcheck⟩
    exact ⟨raw, List.fst_mem_of_mem_zipIdx hentry, hcheck⟩
  · rintro ⟨raw, hraw, hcheck⟩
    obtain ⟨entry, hentry⟩ := exists_mem_zipIdx hraw
    exact ⟨(raw, entry), hentry, hcheck⟩

theorem AuthoredStep.storable_planned_iff {step : AuthoredStep} (hid : step.id ≠ "") (manifest : Manifest)
    (appDirectory : String) (index : Nat) : (step.planned manifest appDirectory index).Storable ↔
      ∀ raw ∈ step.ensures, ∀ ensure, Ensure.decode raw = .ok ensure → ensure.Bounded := by
  have hplanned : (step.planned manifest appDirectory index).id ≠ "" := hid
  rw [Step.Storable, and_iff_right hplanned]
  simp only [mem_planned_checks_iff]
  constructor
  · intro h raw hraw ensure hensure
    exact (ensure.bounded_check_iff appDirectory).1 (h _ ⟨raw, hraw, ensure, hensure, rfl⟩)
  · rintro h check ⟨raw, hraw, ensure, hensure, rfl⟩
    exact (ensure.bounded_check_iff appDirectory).2 (h raw hraw ensure hensure)

namespace Draft

theorem forall_storable_chain_iff (draft : Draft) (step : Step) :
    (∀ other ∈ (draft.chain step).steps, other.Storable) ↔ (∀ other ∈ draft.steps, other.Storable) ∧ step.Storable := by
  exact forall_steps_chain_iff (fun _ => Iff.rfl) draft step

theorem forall_storable_extend_iff (draft : Draft) (step : Option Step) (diagnostics : List Diagnostic) :
    (∀ other ∈ (draft.extend step diagnostics).steps, other.Storable) ↔
      (∀ other ∈ draft.steps, other.Storable) ∧ ∀ added, step = some added → added.Storable := by
  cases step with
  | none => simp [extend]
  | some added =>
    rw [extend, forall_storable_chain_iff]
    simp

end Draft

namespace Standard

theorem storable_macroStep {manifest : Manifest} {id name : String} {calls : List (Table Json)} {checks : List Check}
    (hid : id ≠ "") (hchecks : ∀ check ∈ checks, check.Bounded) :
    ∀ added, (macroStep manifest id name calls checks).1 = some added → added.Storable := by
  intro added hadded
  cases hadded
  exact ⟨hid, hchecks⟩

theorem storable_scaffold (spec : Spec) (manifest : Manifest) :
    ∀ added, (scaffold spec manifest).1 = some added → added.Storable := by
  intro added hadded
  rw [scaffold] at hadded
  split at hadded
  · exact storable_macroStep (by decide) (by simp [Check.Bounded]) added hadded
  · cases hadded

theorem storable_librarySetup (spec : Spec) (manifest : Manifest) :
    ∀ added, (librarySetup spec manifest).1 = some added → added.Storable := by
  intro added hadded
  rw [librarySetup] at hadded
  split at hadded
  · cases hadded
  · split at hadded
    · exact storable_macroStep (by decide) (by simp [Check.Bounded]) added hadded
    · cases hadded

theorem storable_routes (spec : Spec) (manifest : Manifest) :
    ∀ added, (routes spec manifest).1 = some added → added.Storable := by
  intro added hadded
  rw [routes] at hadded
  split at hadded
  · cases hadded
  · split at hadded
    · cases hadded
    · split at hadded
      · exact storable_macroStep (by decide) (by simp [Check.Bounded]) added hadded
      · cases hadded

theorem storable_gates (spec : Spec) : ∀ added, (gates spec).1 = some added → added.Storable := by
  intro added hadded
  rw [gates] at hadded
  split at hadded
  · cases hadded
  · cases hadded
  · cases hadded
    exact ⟨by simp, by simp [Check.Bounded]⟩

/-- The standard program can always be stored. -/
theorem storable_draft (spec : Spec) (manifest : Manifest) :
    ∀ step ∈ (draft spec manifest).steps, step.Storable := by
  have hinit : (initStep spec).Storable := by
    refine ⟨?_, ?_⟩
    · simp [initStep]
    · simp [initStep, Check.Bounded]
  simp only [draft, List.foldl_cons, List.foldl_nil, Draft.forall_storable_extend_iff, List.forall_mem_singleton]
  exact ⟨⟨⟨⟨hinit, storable_scaffold spec manifest⟩, storable_librarySetup spec manifest⟩,
    storable_routes spec manifest⟩, storable_gates spec⟩

end Standard

theorem Draft.forall_storable_ofAuthored_iff {steps : List AuthoredStep} (hids : ∀ step ∈ steps, step.id ≠ "")
    (manifest : Manifest) (appDirectory : String) :
    (∀ step ∈ (ofAuthored manifest appDirectory steps).steps, step.Storable) ↔
      ∀ step ∈ steps, ∀ raw ∈ step.ensures, ∀ ensure, Ensure.decode raw = .ok ensure → ensure.Bounded := by
  rw [ofAuthored, List.forall_mem_map]
  constructor
  · intro h step hstep
    obtain ⟨index, hmem⟩ := exists_mem_zipIdx hstep
    exact (AuthoredStep.storable_planned_iff (hids _ hstep) manifest appDirectory index).1 (h _ hmem)
  · rintro h ⟨step, index⟩ hmem
    have hstep := List.fst_mem_of_mem_zipIdx hmem
    exact (AuthoredStep.storable_planned_iff (hids step hstep) manifest appDirectory index).2 (h step hstep)

/-- The steps built for a checked spec can be stored exactly when its ensures are bounded. -/
theorem Spec.forall_storable_draft_iff {spec : Spec} (hchecked : spec.Checked) (manifest : Manifest) :
    (∀ step ∈ (spec.draft manifest).steps, step.Storable) ↔ spec.EnsuresBounded := by
  obtain ⟨built, hbuilt, hdraft⟩ := spec.draft_cases manifest
  have hstorable : (∀ step ∈ built.steps, step.Storable) ↔ spec.EnsuresBounded := by
    rw [EnsuresBounded]
    rcases hbuilt with ⟨steps, hsteps, rfl⟩ | ⟨hsteps, rfl⟩
    · rw [Draft.forall_storable_ofAuthored_iff (hchecked.ids steps hsteps), hsteps]
      simp
    · rw [hsteps]
      simpa using Standard.storable_draft spec manifest
  rcases hdraft with ⟨-, hdraft⟩ | ⟨-, hdraft⟩
  · rw [hdraft, hstorable]
  · have hverify : ({ id := "verify_docs", checks := spec.verificationChecks } : Step).Storable :=
      ⟨by simp, Spec.bounded_verificationChecks hchecked⟩
    rw [hdraft, Draft.forall_storable_chain_iff, and_iff_left hverify, hstorable]

end GuardedPlan
