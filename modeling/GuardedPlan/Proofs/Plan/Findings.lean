import GuardedPlan.Plan.Build

/-!
# Findings that stop a plan

Only errors keep a plan from being emitted, and every finding is one but the advice on the order of requirements. The findings made while steps are built are therefore all errors: a plan that was emitted was built without any.
-/

namespace GuardedPlan

/-! ### Errors among findings -/

theorem Code.severity_eq_error_iff (code : Code) : code.severity = .error ↔ code ≠ .requiresOrder := by
  cases code <;> decide

theorem Diagnostic.isError_iff (d : Diagnostic) : d.isError = true ↔ d.code ≠ .requiresOrder := by
  rw [Diagnostic.isError, decide_eq_true_eq, Diagnostic.severity, Code.severity_eq_error_iff]

@[simp] theorem Diagnostic.code_advising (d : Diagnostic) (hint : String) : (d.advising hint).code = d.code := rfl

@[simp] theorem Diagnostic.code_located (d : Diagnostic) (path : String) : (d.located path).code = d.code := rfl

def AllErrors (found : List Diagnostic) : Prop := ∀ d ∈ found, d.code ≠ .requiresOrder

theorem AllErrors.nil : AllErrors [] := by
  simp [AllErrors]

theorem AllErrors.append {left right : List Diagnostic} (hleft : AllErrors left) (hright : AllErrors right) :
    AllErrors (left ++ right) := by
  intro d hd
  rcases List.mem_append.1 hd with hd | hd
  · exact hleft d hd
  · exact hright d hd

theorem AllErrors.flatMap {α : Type} {items : List α} {f : α → List Diagnostic} (h : ∀ item, AllErrors (f item)) :
    AllErrors (items.flatMap f) := by
  intro d hd
  obtain ⟨item, _, hd⟩ := List.mem_flatMap.1 hd
  exact h item d hd

theorem AllErrors.map {α : Type} {items : List α} {f : α → Diagnostic} (h : ∀ item, (f item).code ≠ .requiresOrder) :
    AllErrors (items.map f) := by
  intro d hd
  obtain ⟨item, _, rfl⟩ := List.mem_map.1 hd
  exact h item

theorem AllErrors.singleton {d : Diagnostic} (h : d.code ≠ .requiresOrder) : AllErrors [d] := by
  simpa [AllErrors] using h

theorem hasErrors_append (left right : List Diagnostic) :
    hasErrors (left ++ right) = (hasErrors left || hasErrors right) := by
  simp [hasErrors]

theorem AllErrors.hasErrors_eq_false_iff {found : List Diagnostic} (h : AllErrors found) :
    hasErrors found = false ↔ found = [] := by
  constructor
  · intro hnone
    cases found with
    | nil => rfl
    | cons d rest =>
      have herror : d.isError = true := (Diagnostic.isError_iff d).2 (h d List.mem_cons_self)
      simp [hasErrors, herror] at hnone
  · rintro rfl
    rfl

/-! ### Findings of a draft -/

theorem Macro.allErrors_expand (manifest : Manifest) (name : String) (args : Table Json) (location : String) :
    AllErrors (expand manifest name args location).diagnostics := by
  unfold expand
  split
  · exact AllErrors.singleton (by simp)
  · intro d hd
    obtain ⟨⟨argument, type⟩, _, hd⟩ := List.mem_filterMap.1 hd
    obtain ⟨fault, hfault, rfl⟩ := Option.map_eq_some_iff.1 hd
    unfold argumentFault? at hfault
    split at hfault
    · cases hfault
      simp
    · split at hfault
      · cases hfault
      · cases hfault
        simp

theorem Action.allErrors_expansion (manifest : Manifest) (location : String) (action : Action) :
    AllErrors (action.expansion manifest location).diagnostics := by
  cases action with
  | run command => exact AllErrors.nil
  | writeFile path content template vars =>
    cases template with
    | some template => exact AllErrors.nil
    | none =>
      cases content with
      | some content => exact AllErrors.nil
      | none => exact AllErrors.singleton (by simp)
  | appendFile path content => exact AllErrors.nil
  | expand name args => exact Macro.allErrors_expand manifest name args location

namespace AuthoredStep

theorem allErrors_actionExpansion (manifest : Manifest) (id location : String) (raw : Json) :
    AllErrors (actionExpansion manifest id location raw).diagnostics := by
  unfold actionExpansion
  split
  · exact Action.allErrors_expansion manifest location _
  · exact AllErrors.singleton (by simp)

theorem code_of_ensureCheck {appDirectory id location : String} {raw : Json} {d : Diagnostic}
    (h : ensureCheck appDirectory id location raw = .error d) : d.code = .unknownEnsure := by
  unfold ensureCheck at h
  split at h
  · cases h
  · cases h
    rfl

theorem allErrors_findings (manifest : Manifest) (appDirectory : String) (index : Nat) (step : AuthoredStep) :
    AllErrors (step.findings manifest appDirectory index) := by
  refine AllErrors.append (fun d hd => ?_) (fun d hd => ?_)
  · obtain ⟨expansion, hexpansion, hd⟩ := List.mem_flatMap.1 hd
    obtain ⟨⟨raw, entry⟩, _, rfl⟩ := List.mem_map.1 hexpansion
    exact allErrors_actionExpansion manifest step.id _ raw d hd
  · obtain ⟨result, hresult, hd⟩ := List.mem_filterMap.1 hd
    obtain ⟨⟨raw, entry⟩, _, rfl⟩ := List.mem_map.1 hresult
    cases hcheck : ensureCheck appDirectory step.id (place index "ensures" entry) raw with
    | ok check => simp [hcheck, finding?] at hd
    | error fault =>
      simp only [hcheck, finding?, Option.some.injEq] at hd
      subst hd
      simp [code_of_ensureCheck hcheck]

end AuthoredStep

theorem Draft.allErrors_ofAuthored (manifest : Manifest) (appDirectory : String) (steps : List AuthoredStep) :
    AllErrors (ofAuthored manifest appDirectory steps).diagnostics :=
  AllErrors.flatMap fun _ => AuthoredStep.allErrors_findings manifest appDirectory _ _

@[simp] theorem Draft.diagnostics_chain (draft : Draft) (step : Step) :
    (draft.chain step).diagnostics = draft.diagnostics := by
  unfold chain
  split <;> rfl

@[simp] theorem Draft.diagnostics_extend (draft : Draft) (step : Option Step) (found : List Diagnostic) :
    (draft.extend step found).diagnostics = draft.diagnostics ++ found := by
  cases step <;> simp [extend]

namespace Standard

theorem allErrors_missingMacro (name purpose : String) : AllErrors [missingMacro name purpose] :=
  AllErrors.singleton (by simp [missingMacro])

theorem allErrors_macroStep (manifest : Manifest) (id name : String) (calls : List (Table Json))
    (checks : List Check) : AllErrors (macroStep manifest id name calls checks).2 := by
  intro d hd
  obtain ⟨expansion, hexpansion, hd⟩ := List.mem_flatMap.1 hd
  obtain ⟨args, _, rfl⟩ := List.mem_map.1 hexpansion
  exact Macro.allErrors_expand manifest name args _ d hd

theorem allErrors_scaffold (spec : Spec) (manifest : Manifest) : AllErrors (scaffold spec manifest).2 := by
  unfold scaffold
  split
  · exact allErrors_macroStep _ _ _ _ _
  · exact allErrors_missingMacro _ _

theorem allErrors_librarySetup (spec : Spec) (manifest : Manifest) : AllErrors (librarySetup spec manifest).2 := by
  unfold librarySetup
  split
  · exact AllErrors.nil
  · split
    · exact allErrors_macroStep _ _ _ _ _
    · exact AllErrors.nil

theorem allErrors_routes (spec : Spec) (manifest : Manifest) : AllErrors (routes spec manifest).2 := by
  unfold routes
  split
  · exact AllErrors.nil
  · split
    · exact AllErrors.singleton (by simp)
    · split
      · exact allErrors_macroStep _ _ _ _ _
      · exact allErrors_missingMacro _ _

theorem diagnostics_gates (spec : Spec) : (gates spec).2 = [] := by
  unfold gates
  split <;> rfl

theorem allErrors_draft (spec : Spec) (manifest : Manifest) : AllErrors (draft spec manifest).diagnostics := by
  simp only [draft, List.foldl_cons, List.foldl_nil, Draft.diagnostics_extend, List.nil_append, diagnostics_gates,
    List.append_nil]
  exact ((allErrors_scaffold spec manifest).append (allErrors_librarySetup spec manifest)).append
    (allErrors_routes spec manifest)

end Standard

/-- The steps of a plan are the authored ones or those of the standard program, and a last one checks the obligations of the spec, if it has any. -/
theorem Spec.draft_cases (spec : Spec) (manifest : Manifest) :
    ∃ built, ((∃ steps, spec.steps = some steps ∧ built = Draft.ofAuthored manifest spec.appDirectory steps) ∨
        spec.steps = none ∧ built = Standard.draft spec manifest) ∧
      ((spec.verificationChecks = [] ∧ spec.draft manifest = built) ∨
        spec.verificationChecks ≠ [] ∧
          spec.draft manifest = built.chain { id := "verify_docs", checks := spec.verificationChecks }) := by
  rw [draft]
  cases hsteps : spec.steps with
  | none =>
    refine ⟨_, .inr ⟨rfl, rfl⟩, ?_⟩
    cases spec.verificationChecks with
    | nil => exact .inl ⟨rfl, rfl⟩
    | cons check rest => exact .inr ⟨List.cons_ne_nil _ _, rfl⟩
  | some steps =>
    refine ⟨_, .inl ⟨steps, rfl, rfl⟩, ?_⟩
    cases spec.verificationChecks with
    | nil => exact .inl ⟨rfl, rfl⟩
    | cons check rest => exact .inr ⟨List.cons_ne_nil _ _, rfl⟩

theorem Spec.allErrors_draft (spec : Spec) (manifest : Manifest) : AllErrors (spec.draft manifest).diagnostics := by
  obtain ⟨built, hbuilt, hdraft⟩ := spec.draft_cases manifest
  have herrors : AllErrors built.diagnostics := by
    rcases hbuilt with ⟨steps, _, rfl⟩ | ⟨_, rfl⟩
    · exact Draft.allErrors_ofAuthored _ _ _
    · exact Standard.allErrors_draft _ _
  rcases hdraft with ⟨-, hdraft⟩ | ⟨-, hdraft⟩
  · rw [hdraft]
    exact herrors
  · rw [hdraft, Draft.diagnostics_chain]
    exact herrors

end GuardedPlan
