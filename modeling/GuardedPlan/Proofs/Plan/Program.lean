import GuardedPlan.Proofs.Guardrail.Silence
import GuardedPlan.Proofs.Plan.Translation
import Mathlib.Data.List.Chain

/-!
# The standard program

The steps that are made for a spec without any. Each part of the program is left out or adds one step of its own, with checks, and the step requires whatever comes before it; so the passes on proofs and on the order of requirements have nothing to say, whichever parts are left out. A part that should be there and is not has left an error.
-/

namespace GuardedPlan

/-! ### Links between steps -/

/-- Every step but the first requires the one before it and nothing else. -/
structure Linked (steps : List Step) : Prop where
  first : ∀ step ∈ steps.head?, step.requires = []
  later : steps.IsChain fun before step => step.requires = [before.id]

theorem Linked.concat {steps : List Step} (h : Linked steps) {step : Step}
    (hrequires : step.requires = (steps.getLast?.map Step.id).toList) : Linked (steps ++ [step]) := by
  constructor
  · cases steps with
    | nil =>
      intro added hadded
      cases hadded
      exact hrequires
    | cons first rest => exact h.first
  · apply List.isChain_append.2
    refine ⟨h.later, List.isChain_singleton step, ?_⟩
    intro last hlast added hadded
    cases hadded
    rw [hrequires, Option.mem_def.1 hlast]
    rfl

namespace Draft

theorem linked_chain (draft : Draft) (h : Linked draft.steps) {step : Step} (hrequires : step.requires = []) :
    Linked (draft.chain step).steps := by
  rw [steps_chain]
  apply h.concat
  rw [hrequires]
  cases draft.steps.getLast? with
  | none => rfl
  | some last => rfl

theorem linked_extend (draft : Draft) (h : Linked draft.steps) {step : Option Step} (diagnostics : List Diagnostic)
    (hrequires : ∀ added, step = some added → added.requires = []) : Linked (draft.extend step diagnostics).steps := by
  cases step with
  | none => exact h
  | some added =>
    exact linked_chain { draft with diagnostics := draft.diagnostics ++ diagnostics } h (hrequires added rfl)

/-- A program made of parts is linked, whichever of them add a step. -/
theorem linked_foldl (parts : List (Option Step × List Diagnostic)) (draft : Draft) (h : Linked draft.steps)
    (hparts : ∀ part ∈ parts, ∀ step, part.1 = some step → step.requires = []) :
    Linked (parts.foldl (fun draft part => draft.extend part.1 part.2) draft).steps := by
  induction parts generalizing draft with
  | nil => exact h
  | cons part rest ih =>
    obtain ⟨hpart, hrest⟩ := List.forall_mem_cons.1 hparts
    exact ih _ (linked_extend draft h part.2 hpart) hrest

end Draft

theorem Guardrail.requiresFrom_eq_nil {steps : List Step} {earlier : List String} {index : Nat}
    (hfirst : ∀ step ∈ steps.head?, ∀ required ∈ step.requires, required ∈ earlier)
    (hlater : steps.IsChain fun before step => step.requires = [before.id]) :
    requiresFrom earlier index steps = [] := by
  induction steps generalizing earlier index with
  | nil => rfl
  | cons step rest ih =>
    have hmet : step.requires.filter (fun required => !earlier.contains required) = [] := by
      rw [List.filter_eq_nil_iff]
      intro required hrequired
      simpa using hfirst step rfl required hrequired
    rw [requiresFrom, hmet, List.map_nil, List.nil_append]
    obtain ⟨hnext, hrest⟩ := List.isChain_cons.1 hlater
    refine ih ?_ hrest
    intro next hhead required hrequired
    rw [hnext next hhead, List.mem_singleton] at hrequired
    rw [hrequired]
    exact List.mem_cons_self

theorem Linked.requiresOrder_eq_nil {steps : List Step} (h : Linked steps) : Guardrail.requiresOrder steps = [] := by
  refine Guardrail.requiresFrom_eq_nil ?_ h.later
  intro step hstep required hrequired
  rw [h.first step hstep] at hrequired
  cases hrequired

/-! ### Parts -/

namespace Standard

variable (spec : Spec) (manifest : Manifest)

/-- What is found when a part that the program needs is left out. -/
def ReportsMissing (found : List Diagnostic) : Prop :=
  ∃ d ∈ found, d.code = .missingMacro ∧ d.isError = true

theorem reportsMissing_missingMacro (name purpose : String) : ReportsMissing [missingMacro name purpose] :=
  ⟨_, List.mem_singleton_self _, rfl, (Diagnostic.isError_iff _).2 (by simp [missingMacro])⟩

theorem ReportsMissing.mono {found others : List Diagnostic} (h : ReportsMissing found)
    (hsub : ∀ d ∈ found, d ∈ others) : ReportsMissing others := by
  obtain ⟨d, hd, hmissing⟩ := h
  exact ⟨d, hsub d hd, hmissing⟩

theorem scaffold_cases :
    (∃ ops, (scaffold spec manifest).1 =
      some { id := "scaffold_web", ops := ops, checks := [.fileExists (projectManifest spec manifest)] }) ∨
    ((scaffold spec manifest).1 = none ∧ ReportsMissing (scaffold spec manifest).2) := by
  rw [scaffold]
  split
  · exact .inl ⟨_, rfl⟩
  · exact .inr ⟨rfl, reportsMissing_missingMacro _ _⟩

theorem librarySetup_cases :
    (∃ ops library, (librarySetup spec manifest).1 =
      some { id := "setup_ui", ops := ops, checks := [.fileContains (projectManifest spec manifest) library] }) ∨
    (librarySetup spec manifest).1 = none := by
  rw [librarySetup]
  split
  · exact .inr rfl
  · split
    · exact .inl ⟨_, _, rfl⟩
    · exact .inr rfl

theorem routes_cases :
    (spec.routes ≠ [] ∧ ∃ ops, (routes spec manifest).1 =
      some { id := "routes", ops := ops, checks := spec.routes.map (.routeExists spec.appDirectory) }) ∨
    ((routes spec manifest).1 = none ∧ (spec.routes ≠ [] → ReportsMissing (routes spec manifest).2)) := by
  rw [routes]
  split
  next hempty => exact .inr ⟨rfl, fun hroutes => absurd (List.isEmpty_iff.1 hempty) hroutes⟩
  next hempty =>
    have hroutes : spec.routes ≠ [] := fun hnil => hempty (List.isEmpty_iff.2 hnil)
    split
    · refine .inr ⟨rfl, fun _ => ⟨_, List.mem_singleton_self _, rfl, ?_⟩⟩
      simp [Diagnostic.isError_iff]
    · split
      · exact .inl ⟨hroutes, _, rfl⟩
      · exact .inr ⟨rfl, fun _ => reportsMissing_missingMacro _ _⟩

theorem gates_cases :
    (∃ commands, commands ≠ [] ∧ (gates spec).1 =
      some { id := "quality_gates", ops := commands.map .run, checks := commands.map .commandSucceeds }) ∨
    (gates spec).1 = none := by
  rw [gates]
  split
  · exact .inr rfl
  · exact .inr rfl
  next commands hnonempty _ =>
    refine .inl ⟨commands, ?_, rfl⟩
    rintro rfl
    exact hnonempty rfl

/-- The ids of the steps of a program, as far as none of them is left out. -/
def stages : List String :=
  ["init", "scaffold_web", "setup_ui", "routes", "quality_gates", "verify_docs"]

theorem ids_draft :
    (draft spec manifest).steps.map Step.id = "init" :: ((scaffold spec manifest).1.toList ++
      (librarySetup spec manifest).1.toList ++ (routes spec manifest).1.toList ++ (gates spec).1.toList).map Step.id := by
  have hids : (draft spec manifest).steps.map Step.id = (draft spec manifest).outline.map Step.id := by
    rw [Draft.outline, List.map_map]
    rfl
  rw [hids, outline_draft, List.map_map]
  simp only [List.cons_append, List.map_cons]
  rfl

theorem sublist_ids {part : Option Step} {name : String} (h : ∀ step, part = some step → step.id = name) :
    (part.toList.map Step.id).Sublist [name] := by
  cases part with
  | none => exact List.nil_sublist _
  | some step =>
    rw [Option.toList_some, List.map_singleton, h step rfl]

theorem ids_draft_sublist :
    ((draft spec manifest).steps.map Step.id).Sublist
      ["init", "scaffold_web", "setup_ui", "routes", "quality_gates"] := by
  rw [ids_draft, List.map_append, List.map_append, List.map_append]
  apply List.Sublist.cons_cons
  have hroutes : ∀ step, (routes spec manifest).1 = some step → step.id = "routes" := by
    intro step hstep
    rcases routes_cases spec manifest with ⟨-, ops, hsome⟩ | ⟨hnone, -⟩
    · cases hsome.symm.trans hstep
      rfl
    · rw [hnone] at hstep
      cases hstep
  exact (((sublist_ids fun _ => id_scaffold).append (sublist_ids fun _ => id_librarySetup)).append
    (sublist_ids hroutes)).append (sublist_ids fun _ => id_gates)

theorem of_part {part : Part} {step : Step}
    (hpart : part ∈ [scaffold spec manifest, librarySetup spec manifest, routes spec manifest, gates spec])
    (hstep : part.1 = some step) : step.requires = [] ∧ step.checks ≠ [] := by
  simp only [List.mem_cons, List.not_mem_nil, or_false] at hpart
  rcases hpart with rfl | rfl | rfl | rfl
  · rcases scaffold_cases spec manifest with ⟨ops, hsome⟩ | ⟨hnone, -⟩
    · cases hsome.symm.trans hstep
      exact ⟨rfl, List.cons_ne_nil _ _⟩
    · cases hnone.symm.trans hstep
  · rcases librarySetup_cases spec manifest with ⟨ops, library, hsome⟩ | hnone
    · cases hsome.symm.trans hstep
      exact ⟨rfl, List.cons_ne_nil _ _⟩
    · cases hnone.symm.trans hstep
  · rcases routes_cases spec manifest with ⟨hroutes, ops, hsome⟩ | ⟨hnone, -⟩
    · cases hsome.symm.trans hstep
      exact ⟨rfl, by simpa using hroutes⟩
    · cases hnone.symm.trans hstep
  · rcases gates_cases spec with ⟨commands, hcommands, hsome⟩ | hnone
    · cases hsome.symm.trans hstep
      exact ⟨rfl, by simpa using hcommands⟩
    · cases hnone.symm.trans hstep

theorem linked_draft : Linked (draft spec manifest).steps := by
  have hinit : Linked [initStep spec] := by
    refine ⟨?_, List.isChain_singleton _⟩
    intro step hstep
    cases hstep
    rfl
  exact Draft.linked_foldl _ ⟨[initStep spec], []⟩ hinit fun part hpart step hstep => (of_part spec manifest hpart hstep).1

theorem checks_ne_nil {step : Step} (hstep : step ∈ (draft spec manifest).steps) : step.checks ≠ [] := by
  have houtline : step.withoutRequires ∈ (draft spec manifest).outline := List.mem_map_of_mem hstep
  rw [outline_draft] at houtline
  obtain ⟨part, hpart, hsame⟩ := List.mem_map.1 houtline
  rw [← (Step.eq_of_withoutRequires hsame).2.2]
  simp only [List.mem_append, List.mem_cons, Option.mem_toList] at hpart
  rcases hpart with (((rfl | hpart) | hpart) | hpart) | hpart
  · exact List.cons_ne_nil _ _
  · exact (of_part spec manifest (by simp) hpart).2
  · exact (of_part spec manifest (by simp) hpart).2
  · exact (of_part spec manifest (by simp) hpart).2
  · exact (of_part spec manifest (by simp) hpart).2

/-! ### Checks of routes -/

def routeChecks (steps : List Step) : List Check :=
  (steps.flatMap Step.checks).filter fun check => check.kind = "route.exists"

theorem routeChecks_append (steps others : List Step) :
    routeChecks (steps ++ others) = routeChecks steps ++ routeChecks others := by
  rw [routeChecks, List.flatMap_append, List.filter_append]
  rfl

theorem routeChecks_eq_nil {steps : List Step}
    (h : ∀ step ∈ steps, ∀ check ∈ step.checks, check.kind ≠ "route.exists") : routeChecks steps = [] := by
  rw [routeChecks, List.filter_eq_nil_iff]
  intro check hcheck
  obtain ⟨step, hstep, hcheck⟩ := List.mem_flatMap.1 hcheck
  rw [decide_eq_true_eq]
  exact h step hstep check hcheck

theorem routeChecks_outline (draft : Draft) : routeChecks draft.outline = routeChecks draft.steps := by
  rw [routeChecks, Draft.outline, List.flatMap_map]
  rfl

theorem routeChecks_draft :
    routeChecks (draft spec manifest).steps = routeChecks (routes spec manifest).1.toList := by
  have hinit : routeChecks [initStep spec] = [] := rfl
  have hscaffold : routeChecks (scaffold spec manifest).1.toList = [] := by
    rcases scaffold_cases spec manifest with ⟨ops, hsome⟩ | ⟨hnone, -⟩
    · rw [hsome]
      rfl
    · rw [hnone]
      rfl
  have hlibrary : routeChecks (librarySetup spec manifest).1.toList = [] := by
    rcases librarySetup_cases spec manifest with ⟨ops, library, hsome⟩ | hnone
    · rw [hsome]
      rfl
    · rw [hnone]
      rfl
  have hgates : routeChecks (gates spec).1.toList = [] := by
    apply routeChecks_eq_nil
    intro step hstep check hcheck
    rcases gates_cases spec with ⟨commands, -, hsome⟩ | hnone
    · rw [hsome, Option.toList_some, List.mem_singleton] at hstep
      subst hstep
      obtain ⟨command, -, rfl⟩ := List.mem_map.1 hcheck
      simp [Check.kind]
    · rw [hnone] at hstep
      cases hstep
  have hmap : ∀ steps : List Step, routeChecks (steps.map Step.withoutRequires) = routeChecks steps := by
    intro steps
    exact routeChecks_outline ⟨steps, []⟩
  rw [← routeChecks_outline, outline_draft, hmap, routeChecks_append, routeChecks_append, routeChecks_append,
    ← List.singleton_append, routeChecks_append, hinit, hscaffold, hlibrary, hgates, List.nil_append, List.nil_append,
    List.nil_append, List.append_nil]

theorem routeChecks_map (directory : String) (routes : List String) :
    routeChecks [{ id := "routes", checks := routes.map (.routeExists directory) }] = routes.map (.routeExists directory) := by
  rw [routeChecks, List.flatMap_singleton, List.filter_eq_self]
  intro check hcheck
  obtain ⟨route, -, rfl⟩ := List.mem_map.1 hcheck
  rfl

/-- A step with the id of the routes checks every route, and no other step checks any. -/
theorem checks_of_routes {step : Step} (hstep : step ∈ (draft spec manifest).steps) (hid : step.id = "routes") :
    step.checks = spec.routes.map (.routeExists spec.appDirectory) ∧
      routeChecks (draft spec manifest).steps = spec.routes.map (.routeExists spec.appDirectory) := by
  obtain ⟨added, hadded, hsame⟩ := exists_routes_of_mem_outline (List.mem_map_of_mem hstep) hid
  rcases routes_cases spec manifest with ⟨-, ops, hsome⟩ | ⟨hnone, -⟩
  · cases hsome.symm.trans hadded
    have hroutes : routeChecks (routes spec manifest).1.toList = spec.routes.map (.routeExists spec.appDirectory) := by
      rw [hsome]
      exact routeChecks_map _ _
    exact ⟨(Step.eq_of_withoutRequires hsame).2.2, (routeChecks_draft spec manifest).trans hroutes⟩
  · cases hnone.symm.trans hadded

/-! ### Parts that are left out -/

theorem diagnostics_draft : (draft spec manifest).diagnostics =
    (scaffold spec manifest).2 ++ (librarySetup spec manifest).2 ++ (routes spec manifest).2 := by
  simp only [draft, List.foldl_cons, List.foldl_nil, Draft.diagnostics_extend, List.nil_append, diagnostics_gates,
    List.append_nil]

theorem reportsMissing_of_scaffold (h : "scaffold_web" ∉ (draft spec manifest).steps.map Step.id) :
    ReportsMissing (draft spec manifest).diagnostics := by
  rcases scaffold_cases spec manifest with ⟨ops, hsome⟩ | ⟨-, hmissing⟩
  · rw [ids_draft, hsome] at h
    simp at h
  · rw [diagnostics_draft]
    apply hmissing.mono
    intro d hd
    exact List.mem_append_left _ (List.mem_append_left _ hd)

theorem reportsMissing_of_routes (hroutes : spec.routes ≠ []) (h : "routes" ∉ (draft spec manifest).steps.map Step.id) :
    ReportsMissing (draft spec manifest).diagnostics := by
  rcases routes_cases spec manifest with ⟨-, ops, hsome⟩ | ⟨-, hmissing⟩
  · rw [ids_draft, hsome] at h
    simp at h
  · rw [diagnostics_draft]
    apply (hmissing hroutes).mono
    intro d hd
    exact List.mem_append_right _ hd

end Standard

/-! ### The whole program -/

theorem Spec.kind_of_mem_verificationChecks {spec : Spec} {check : Check} (hcheck : check ∈ spec.verificationChecks) :
    check.kind ≠ "route.exists" := by
  rw [Spec.verificationChecks] at hcheck
  rcases List.mem_append.1 hcheck with hcheck | hcheck
  · cases hdocs : spec.docs with
    | none => simp [hdocs] at hcheck
    | some docs =>
      rw [hdocs] at hcheck
      simp only [Docs.checks, List.mem_append, List.mem_map] at hcheck
      rcases hcheck with (⟨path, -, rfl⟩ | ⟨demand, -, rfl⟩) | ⟨demand, -, rfl⟩
      · simp [Check.kind]
      · simp [Check.kind]
      · rw [TextDemand.check]
        cases demand.mode with
        | literal => simp [Check.kind]
        | fuzzy => simp [Check.kind]
  · cases hartifacts : spec.artifacts with
    | none => simp [hartifacts] at hcheck
    | some required =>
      rw [hartifacts] at hcheck
      obtain ⟨artifact, -, rfl⟩ := List.mem_map.1 hcheck
      simp [Check.kind]

/-- A program for the spec of which its own guardrails approve: it marks the workspace and goes through the stages in their order, checks every route once if it makes any, and reports that it cannot do what it needs. -/
structure Standard.Sound (spec : Spec) (program : Draft) : Prop where
  proved : Guardrail.proofs program.steps = []
  ordered : Guardrail.requiresOrder program.steps = []
  distinct : (program.steps.map Step.id).Nodup
  stages : (program.steps.map Step.id).Sublist stages
  begins : (program.steps.map Step.id).head? = some "init"
  linked : Linked program.steps
  checked : ∀ step ∈ program.steps, step.id = "routes" →
    step.checks = spec.routes.map (.routeExists spec.appDirectory) ∧
      routeChecks program.steps = spec.routes.map (.routeExists spec.appDirectory)
  scaffolds : "scaffold_web" ∉ program.steps.map Step.id → ReportsMissing program.diagnostics
  routes : spec.routes ≠ [] → "routes" ∉ program.steps.map Step.id → ReportsMissing program.diagnostics

/-- Whatever the manifest offers and the spec asks for, the program that is made for a spec without steps is sound. -/
theorem Spec.sound_draft {spec : Spec} (h : spec.steps = none) (manifest : Manifest) :
    Standard.Sound spec (spec.draft manifest) := by
  obtain ⟨built, ⟨steps, hsome, -⟩ | ⟨-, rfl⟩, hfound, hclosing⟩ := spec.draft_closes manifest
  · rw [h] at hsome
    cases hsome
  obtain ⟨closing, hsteps, hclosing⟩ : ∃ closing, (spec.draft manifest).steps =
      (Standard.draft spec manifest).steps ++ closing ∧
      (closing = [] ∨ closing = [spec.closingStep (Standard.draft spec manifest).steps]) := by
    rcases hclosing with ⟨-, hsame⟩ | ⟨-, hadded⟩
    · exact ⟨[], by rw [hsame, List.append_nil], .inl rfl⟩
    · exact ⟨_, hadded, .inr rfl⟩
  have hlinked : Linked (spec.draft manifest).steps := by
    rw [hsteps]
    rcases hclosing with rfl | rfl
    · rw [List.append_nil]
      exact Standard.linked_draft spec manifest
    · exact (Standard.linked_draft spec manifest).concat rfl
  have hlast : ∀ step ∈ closing, step.id = "verify_docs" ∧ step.ops = [] ∧ step.checks = spec.verificationChecks := by
    rcases hclosing with rfl | rfl
    · simp
    · simp [Spec.closingStep]
  have hstages : ((spec.draft manifest).steps.map Step.id).Sublist Standard.stages := by
    rw [hsteps, List.map_append]
    apply (Standard.ids_draft_sublist spec manifest).append
    rcases hclosing with rfl | rfl
    · exact List.nil_sublist ["verify_docs"]
    · exact List.Sublist.refl ["verify_docs"]
  have hearlier : ∀ name ∈ (Standard.draft spec manifest).steps.map Step.id,
      name ∈ (spec.draft manifest).steps.map Step.id := by
    rw [hsteps, List.map_append]
    exact fun name => List.mem_append_left _
  constructor
  case proved =>
    rw [Guardrail.proofs_eq_nil_iff, hsteps]
    intro step hstep hops
    rcases List.mem_append.1 hstep with hstep | hstep
    · exact Standard.checks_ne_nil spec manifest hstep
    · exact absurd (hlast step hstep).2.1 hops
  case ordered => exact hlinked.requiresOrder_eq_nil
  case distinct => exact List.Nodup.sublist hstages (by decide)
  case stages => exact hstages
  case begins =>
    rw [hsteps, List.map_append, Standard.ids_draft]
    rfl
  case linked => exact hlinked
  case checked =>
    intro step hstep hid
    rw [hsteps] at hstep
    rcases List.mem_append.1 hstep with hstep | hstep
    · obtain ⟨hchecks, hroutes⟩ := Standard.checks_of_routes spec manifest hstep hid
      have hnone : Standard.routeChecks closing = [] := by
        apply Standard.routeChecks_eq_nil
        intro last hlastStep check hcheck
        rw [(hlast last hlastStep).2.2] at hcheck
        exact Spec.kind_of_mem_verificationChecks hcheck
      rw [hsteps, Standard.routeChecks_append, hnone, List.append_nil]
      exact ⟨hchecks, hroutes⟩
    · exact absurd ((hlast step hstep).1.symm.trans hid) (by decide)
  case scaffolds =>
    intro habsent
    rw [hfound]
    exact Standard.reportsMissing_of_scaffold spec manifest fun hmem => habsent (hearlier _ hmem)
  case routes =>
    intro hroutes habsent
    rw [hfound]
    exact Standard.reportsMissing_of_routes spec manifest hroutes fun hmem => habsent (hearlier _ hmem)

namespace Sample

/-- A spec without steps that has routes, a gate and an artifact. -/
def programSpec : Spec :=
  { mixedSpec with routes := ["/", "/a"], gates := some ["go"], steps := none }

/-- A manifest that can make pages and cannot scaffold. -/
def programManifest : Manifest :=
  { readmeManifest with
    macros := .ofList [("routing.page", readmeMacro)]
    semantics := { routing := some (.fileBased "app" "page.tsx") } }

end Sample

theorem Spec.sound_draft_program :
    Sample.programSpec.steps = none ∧
    Standard.Sound Sample.programSpec (Sample.programSpec.draft Sample.programManifest) ∧
    (Sample.programSpec.draft Sample.programManifest).steps.map Step.id =
      ["init", "routes", "quality_gates", "verify_docs"] ∧
    (Sample.programSpec.draft Sample.programManifest).steps.map Step.requires =
      [[], ["init"], ["routes"], ["quality_gates"]] ∧
    Standard.ReportsMissing (Sample.programSpec.draft Sample.programManifest).diagnostics := by
  have hsound := @Spec.sound_draft Sample.programSpec rfl Sample.programManifest
  have hids : (Sample.programSpec.draft Sample.programManifest).steps.map Step.id =
      ["init", "routes", "quality_gates", "verify_docs"] := by decide
  refine ⟨rfl, hsound, hids, by decide, hsound.scaffolds ?_⟩
  rw [hids]
  decide

end GuardedPlan
