import GuardedPlan.Proofs.Plan.Findings

/-!
# Drafts up to requirements

A step that is added to a draft is changed in what it requires and in nothing else. Up to requirements a draft is therefore the plain list of the steps that were added, and the standard program is the list of its parts.
-/

namespace GuardedPlan

def Step.withoutRequires (step : Step) : Step :=
  { step with requires := [] }

theorem Step.eq_of_withoutRequires {step other : Step} (h : step.withoutRequires = other.withoutRequires) :
    step.id = other.id ∧ step.ops = other.ops ∧ step.checks = other.checks := by
  obtain ⟨hid, -, hops, hchecks, -⟩ := Step.mk.inj h
  exact ⟨hid, hops, hchecks⟩

namespace Draft

/-- The steps of a draft without what they require. -/
def outline (draft : Draft) : List Step :=
  draft.steps.map Step.withoutRequires

theorem outline_chain (draft : Draft) (step : Step) :
    (draft.chain step).outline = draft.outline ++ [step.withoutRequires] := by
  rw [chain]
  split
  · rw [outline, outline, List.map_append]
    rfl
  · rw [outline, outline, List.map_append]
    rfl

theorem steps_chain (draft : Draft) (step : Step) :
    (draft.chain step).steps =
      draft.steps ++ [{ step with requires := (draft.steps.getLast?.map fun last => [last.id]).getD step.requires }] := by
  rw [chain]
  cases draft.steps.getLast? with
  | none => rfl
  | some last => rfl

theorem prefix_steps_chain (draft : Draft) (step : Step) : draft.steps <+: (draft.chain step).steps := by
  rw [chain]
  split <;> exact List.prefix_append _ _

theorem prefix_steps_extend (draft : Draft) (step : Option Step) (diagnostics : List Diagnostic) :
    draft.steps <+: (draft.extend step diagnostics).steps := by
  cases step with
  | none => exact List.prefix_rfl
  | some added => exact prefix_steps_chain { draft with diagnostics := draft.diagnostics ++ diagnostics } added

/-- Steps are added behind those that are there. -/
theorem prefix_steps_foldl (parts : List (Option Step × List Diagnostic)) (draft : Draft) :
    draft.steps <+: (parts.foldl (fun draft part => draft.extend part.1 part.2) draft).steps := by
  induction parts generalizing draft with
  | nil => exact List.prefix_rfl
  | cons part rest ih => exact (prefix_steps_extend draft part.1 part.2).trans (ih _)

theorem outline_extend (draft : Draft) (step : Option Step) (diagnostics : List Diagnostic) :
    (draft.extend step diagnostics).outline = draft.outline ++ step.toList.map Step.withoutRequires := by
  cases step with
  | none => exact (List.append_nil _).symm
  | some added => exact outline_chain _ added

/-- What does not depend on requirements holds of the steps of a draft if it holds of its outline. -/
theorem forall_steps_iff {P : Step → Prop} (h : ∀ step : Step, P step.withoutRequires ↔ P step) (draft : Draft) :
    (∀ step ∈ draft.steps, P step) ↔ ∀ step ∈ draft.outline, P step := by
  rw [outline, List.forall_mem_map]
  simp only [h]

theorem forall_steps_chain_iff {P : Step → Prop} (h : ∀ step : Step, P step.withoutRequires ↔ P step) (draft : Draft)
    (step : Step) : (∀ other ∈ (draft.chain step).steps, P other) ↔ (∀ other ∈ draft.steps, P other) ∧ P step := by
  rw [forall_steps_iff h, outline_chain, List.forall_mem_append, ← forall_steps_iff h, List.forall_mem_singleton, h]

end Draft

namespace Standard

variable {spec : Spec} {manifest : Manifest} {step : Step}

theorem outline_draft (spec : Spec) (manifest : Manifest) :
    (draft spec manifest).outline =
      ((initStep spec :: (scaffold spec manifest).1.toList) ++ (librarySetup spec manifest).1.toList ++
        (routes spec manifest).1.toList ++ (gates spec).1.toList).map Step.withoutRequires := by
  simp only [draft, List.foldl_cons, List.foldl_nil, Draft.outline_extend, List.map_append, List.map_cons]
  rfl

theorem id_scaffold (h : (scaffold spec manifest).1 = some step) : step.id = "scaffold_web" := by
  rw [scaffold] at h
  split at h
  · cases h
    rfl
  · cases h

theorem id_librarySetup (h : (librarySetup spec manifest).1 = some step) : step.id = "setup_ui" := by
  rw [librarySetup] at h
  split at h
  · cases h
  · split at h
    · cases h
      rfl
    · cases h

theorem id_gates (h : (gates spec).1 = some step) : step.id = "quality_gates" := by
  rw [gates] at h
  split at h
  · cases h
  · cases h
  · cases h
    rfl

/-- Of the parts of the program, only the one that makes the routes has that id. -/
theorem exists_routes_of_mem_outline (hmem : step ∈ (draft spec manifest).outline) (hid : step.id = "routes") :
    ∃ added, (routes spec manifest).1 = some added ∧ step = added.withoutRequires := by
  rw [outline_draft] at hmem
  obtain ⟨part, hpart, rfl⟩ := List.mem_map.1 hmem
  have hother : part.id = "routes" := hid
  simp only [List.mem_append, List.mem_cons, Option.mem_toList] at hpart
  rcases hpart with (((rfl | hpart) | hpart) | hpart) | hpart
  · simp [initStep] at hother
  · simp [id_scaffold hpart] at hother
  · simp [id_librarySetup hpart] at hother
  · exact ⟨part, hpart, rfl⟩
  · simp [id_gates hpart] at hother

/-- The part that makes the routes calls the macro of the manifest and checks every route. -/
theorem exists_routes_step {routing : Routing} {definition : MacroDefinition} (hroutes : spec.routes ≠ [])
    (hrouting : manifest.semantics.routing = some routing)
    (hdefinition : manifest.macros.get? routing.macroName = some definition) :
    ∃ added, (routes spec manifest).1 = some added ∧ added.id = "routes" ∧
      added.checks = spec.routes.map (.routeExists spec.appDirectory) ∧
      added.ops = (routeCalls spec routing).flatMap fun args =>
        definition.expandsTo.map (Macro.instantiate (Macro.bind definition.args args)) := by
  have hmacro : manifest.hasMacro routing.macroName = true := by rw [Manifest.hasMacro, hdefinition, Option.isSome_some]
  have hsome : spec.routes.isEmpty = false := by simpa using hroutes
  have hops : ∀ args, (Macro.expand manifest routing.macroName args "program.routes").ops =
      definition.expandsTo.map (Macro.instantiate (Macro.bind definition.args args)) := by
    intro args
    rw [Macro.expand, hdefinition]
  rw [routes, hsome, hrouting]
  simp only [Bool.false_eq_true, if_false, hmacro, if_true]
  refine ⟨_, rfl, rfl, rfl, ?_⟩
  rw [List.flatMap_map]
  exact congrArg (List.flatMap · (routeCalls spec routing)) (funext hops)

end Standard

/-! ### The closing step -/

/-- The documentation section names a file, a section or a text, or there is an artifact. -/
def Spec.HasObligations (spec : Spec) : Prop :=
  (∃ docs, spec.docs = some docs ∧ (docs.requiredFiles ≠ [] ∨ docs.sections ≠ [] ∨ docs.expect ≠ [])) ∨
    ∃ required, spec.artifacts = some required ∧ required ≠ []

theorem Spec.verificationChecks_ne_nil_iff (spec : Spec) : spec.verificationChecks ≠ [] ↔ spec.HasObligations := by
  have hdocs : ∀ docs : Docs, docs.checks ≠ [] ↔ docs.requiredFiles ≠ [] ∨ docs.sections ≠ [] ∨ docs.expect ≠ [] := by
    intro docs
    simp only [Docs.checks, ne_eq, List.append_eq_nil_iff, List.map_eq_nil_iff, Classical.not_and_iff_not_or_not,
      or_assoc]
  rw [verificationChecks, HasObligations, ne_eq, List.append_eq_nil_iff, Classical.not_and_iff_not_or_not]
  apply or_congr
  · cases spec.docs with
    | none => simp
    | some docs => simp [← hdocs]
  · cases spec.artifacts with
    | none => simp
    | some required => simp

/-- The step that closes a plan, behind the steps that were built. -/
def Spec.closingStep (spec : Spec) (built : List Step) : Step where
  id := "verify_docs"
  requires := (built.getLast?.map Step.id).toList
  ops := []
  checks := spec.verificationChecks

/-- Behind the steps that were built comes the closing step, exactly if there are obligations. -/
theorem Spec.draft_closes (spec : Spec) (manifest : Manifest) :
    ∃ built, ((∃ steps, spec.steps = some steps ∧ built = Draft.ofAuthored manifest spec.appDirectory steps) ∨
        spec.steps = none ∧ built = Standard.draft spec manifest) ∧
      (spec.draft manifest).diagnostics = built.diagnostics ∧
      ((¬ spec.HasObligations ∧ (spec.draft manifest).steps = built.steps) ∨
        spec.HasObligations ∧ (spec.draft manifest).steps = built.steps ++ [spec.closingStep built.steps]) := by
  obtain ⟨built, hbuilt, hdraft⟩ := spec.draft_cases manifest
  rw [← spec.verificationChecks_ne_nil_iff]
  rcases hdraft with ⟨hnone, hdraft⟩ | ⟨hsome, hdraft⟩
  · exact ⟨built, hbuilt, by rw [hdraft], .inl ⟨not_not_intro hnone, by rw [hdraft]⟩⟩
  · refine ⟨built, hbuilt, by rw [hdraft, Draft.diagnostics_chain], .inr ⟨hsome, ?_⟩⟩
    rw [hdraft, Draft.steps_chain, closingStep]
    cases built.steps.getLast? with
    | none => rfl
    | some last => rfl

/-- The plan of a spec without steps begins with the step that marks the workspace. -/
theorem Spec.init_step_draft {spec : Spec} (hsteps : spec.steps = none) (manifest : Manifest) :
    [Standard.initStep spec] <+: (spec.draft manifest).steps := by
  have hstandard : [Standard.initStep spec] <+: (Standard.draft spec manifest).steps :=
    Draft.prefix_steps_foldl _ ⟨[Standard.initStep spec], []⟩
  obtain ⟨built, ⟨steps, hsome, -⟩ | ⟨-, rfl⟩, hdraft⟩ := spec.draft_cases manifest
  · rw [hsteps] at hsome
    cases hsome
  rcases hdraft with ⟨-, hdraft⟩ | ⟨-, hdraft⟩
  · rw [hdraft]
    exact hstandard
  · rw [hdraft]
    exact hstandard.trans (Draft.prefix_steps_chain _ _)

/-- In the plan of a spec without steps, the part that makes the routes is the one step with its id. -/
theorem Spec.routes_step_draft {spec : Spec} {manifest : Manifest} {added : Step} (hsteps : spec.steps = none)
    (hadded : (Standard.routes spec manifest).1 = some added) (hid : added.id = "routes") :
    (∃ step ∈ (spec.draft manifest).steps, step.id = "routes") ∧
      ∀ step ∈ (spec.draft manifest).steps, step.id = "routes" → step.withoutRequires = added.withoutRequires := by
  have hmem : added.withoutRequires ∈ (Standard.draft spec manifest).outline := by
    rw [Standard.outline_draft]
    refine List.mem_map_of_mem ?_
    simp [hadded]
  have hstandard : ∀ step ∈ (Standard.draft spec manifest).steps,
      step.id = "routes" → step.withoutRequires = added.withoutRequires := by
    intro step hstep hroutes
    obtain ⟨part, hpart, hsame⟩ := Standard.exists_routes_of_mem_outline (List.mem_map_of_mem hstep) hroutes
    cases hadded.symm.trans hpart
    exact hsame
  obtain ⟨step, hstep, hsame⟩ := List.mem_map.1 hmem
  have hroutes : step.id = "routes" := (Step.eq_of_withoutRequires hsame).1.trans hid
  obtain ⟨built, ⟨steps, hsome, -⟩ | ⟨-, rfl⟩, hdraft⟩ := spec.draft_cases manifest
  · rw [hsteps] at hsome
    cases hsome
  rcases hdraft with ⟨-, hdraft⟩ | ⟨-, hdraft⟩
  · rw [hdraft]
    exact ⟨⟨step, hstep, hroutes⟩, hstandard⟩
  · rw [hdraft]
    have hchain := (Draft.forall_steps_chain_iff (fun _ => Iff.rfl) (Standard.draft spec manifest)
      { id := "verify_docs", checks := spec.verificationChecks }).2 ⟨hstandard, by simp⟩
    exact ⟨⟨step, (Draft.prefix_steps_chain _ _).subset hstep, hroutes⟩, hchain⟩

/-- The step with the id of the routes checks every route, and its operations are those of the calls of the macro. -/
theorem Spec.routes_step_of_macro {spec : Spec} {manifest : Manifest} {routing : Routing} {definition : MacroDefinition}
    (hsteps : spec.steps = none) (hroutes : spec.routes ≠ []) (hrouting : manifest.semantics.routing = some routing)
    (hdefinition : manifest.macros.get? routing.macroName = some definition) :
    (∃ step ∈ (spec.draft manifest).steps, step.id = "routes") ∧
      ∀ step ∈ (spec.draft manifest).steps, step.id = "routes" →
        step.checks = spec.routes.map (.routeExists spec.appDirectory) ∧
        step.ops = (Standard.routeCalls spec routing).flatMap fun args =>
          definition.expandsTo.map (Macro.instantiate (Macro.bind definition.args args)) := by
  obtain ⟨added, hadded, hid, hchecks, hops⟩ := Standard.exists_routes_step hroutes hrouting hdefinition
  obtain ⟨hexists, hunique⟩ := spec.routes_step_draft hsteps hadded hid
  refine ⟨hexists, fun step hstep hroutes => ?_⟩
  obtain ⟨-, hsameOps, hsameChecks⟩ := Step.eq_of_withoutRequires (hunique step hstep hroutes)
  exact ⟨hsameChecks.trans hchecks, hsameOps.trans hops⟩

end GuardedPlan
