import GuardedPlan.Execution.Preflight
import GuardedPlan.Proofs.Base.Lists
import GuardedPlan.Proofs.Base.Tables
import GuardedPlan.Proofs.Plan.Findings

/-!
# What a silent guardrail proves

Each pass over the steps of a plan, read backwards: it reports nothing exactly when the property it looks for holds of every step. The passes number the steps and their entries only to say where a finding is, so the first lemmas take the numbers away. Every finding of the passes that can stop a plan is an error, and that is why "no errors" and "no findings" are the same for them.
-/

namespace GuardedPlan

/-! ### Numbered lists -/

theorem flatMap_zipIdx_eq_nil_iff {α β : Type} {items : List α} {f : α × Nat → List β} {P : α → Prop}
    (h : ∀ item index, f (item, index) = [] ↔ P item) : items.zipIdx.flatMap f = [] ↔ ∀ item ∈ items, P item := by
  rw [List.flatMap_eq_nil_iff]
  constructor
  · intro hall item hitem
    obtain ⟨index, hmem⟩ := exists_mem_zipIdx hitem
    exact (h _ _).1 (hall _ hmem)
  · rintro hall ⟨item, index⟩ hmem
    exact (h item index).2 (hall item (List.fst_mem_of_mem_zipIdx hmem))

namespace Guardrail

@[simp] theorem code_finding (code : Code) (message place : String) : (finding code message place).code = code := rfl

/-! ### Effects -/

theorem stepEffects_eq_nil_iff (policy : WritePolicy) (index : Nat) (step : Step) :
    stepEffects policy index step = [] ↔ ∀ target ∈ step.targets, policy.violations target = [] := by
  rw [stepEffects]
  refine (flatMap_zipIdx_eq_nil_iff
    (P := fun op => ∀ target, op.target? = some target → policy.violations target = []) fun op entry => ?_).trans ?_
  · cases htarget : op.target? <;> simp [htarget]
  · constructor
    · intro h target htarget
      obtain ⟨op, hop, htarget⟩ := List.mem_filterMap.1 htarget
      exact h op hop target htarget
    · intro h op hop target htarget
      exact h target (List.mem_filterMap.2 ⟨op, hop, htarget⟩)

theorem effects_eq_nil_iff (spec : Spec) (policy : WritePolicy) (steps : List Step) :
    effects spec policy steps = [] ↔ (scopedPolicy spec policy).2 = [] ∧
      ∀ step ∈ steps, ∀ target ∈ step.targets, (scopedPolicy spec policy).1.violations target = [] := by
  rw [effects, List.append_eq_nil_iff, flatMap_zipIdx_eq_nil_iff fun step index =>
    stepEffects_eq_nil_iff (scopedPolicy spec policy).1 index step]

/-- The scopes are in order when they are there if the spec promises them, and can be read. -/
theorem scopedPolicy_snd_eq_nil_iff (spec : Spec) (policy : WritePolicy) :
    (scopedPolicy spec policy).2 = [] ↔ (spec.isExplicit = true → spec.writeScopes ≠ none) ∧
      ∀ scopes, spec.writeScopes = some scopes → ∃ globs, Glob.parseAll scopes = .ok globs := by
  cases hscopes : spec.writeScopes with
  | none => cases hexplicit : spec.isExplicit <;> simp [scopedPolicy, hscopes, hexplicit]
  | some scopes =>
    cases hglobs : Glob.parseAll scopes with
    | error bad => simp [scopedPolicy, hscopes, WritePolicy.confined, hglobs, bind, Except.bind]
    | ok globs => simp [scopedPolicy, hscopes, WritePolicy.confined, hglobs, bind, Except.bind, pure, Except.pure]

/-- Scopes that are in order become part of the policy and change nothing else in it. -/
theorem scopedPolicy_fst_of_snd_eq_nil {spec : Spec} {policy : WritePolicy}
    (h : (scopedPolicy spec policy).2 = []) :
    (spec.writeScopes = none ∧ (scopedPolicy spec policy).1 = policy) ∨
      ∃ scopes globs, spec.writeScopes = some scopes ∧ Glob.parseAll scopes = .ok globs ∧
        (scopedPolicy spec policy).1 = { policy with scopes := some globs } := by
  cases hscopes : spec.writeScopes with
  | none => exact .inl ⟨rfl, by simp [scopedPolicy, hscopes]⟩
  | some scopes =>
    obtain ⟨globs, hglobs⟩ := ((scopedPolicy_snd_eq_nil_iff spec policy).1 h).2 scopes hscopes
    refine .inr ⟨scopes, globs, rfl, hglobs, ?_⟩
    simp [scopedPolicy, hscopes, WritePolicy.confined, hglobs, bind, Except.bind, pure, Except.pure]

theorem allErrors_stepEffects (policy : WritePolicy) (index : Nat) (step : Step) :
    AllErrors (stepEffects policy index step) := by
  refine AllErrors.flatMap fun ⟨op, entry⟩ => ?_
  dsimp only
  cases op.target? with
  | none => exact AllErrors.nil
  | some target => exact AllErrors.map fun violation => by cases violation <;> simp [writeFinding]

theorem allErrors_effects (spec : Spec) (policy : WritePolicy) (steps : List Step) :
    AllErrors (effects spec policy steps) := by
  have hscopes : AllErrors (scopedPolicy spec policy).2 := by
    unfold scopedPolicy
    repeat' split
    all_goals simp [AllErrors]
  exact hscopes.append (AllErrors.flatMap fun _ => allErrors_stepEffects _ _ _)

/-! ### Commands -/

theorem entryCommands_eq_nil_iff (policy : CommandsPolicy) (step place : String) (command : Option String) :
    entryCommands policy step place command = [] ↔ ∀ line, command = some line → policy.violations line = [] := by
  cases command <;> simp [entryCommands]

theorem stepCommands_eq_nil_iff (policy : CommandsPolicy) (index : Nat) (step : Step) :
    stepCommands policy index step = [] ↔ ∀ command ∈ step.commands, policy.violations command = [] := by
  rw [stepCommands, List.append_eq_nil_iff,
    flatMap_zipIdx_eq_nil_iff fun op entry => entryCommands_eq_nil_iff policy step.id _ op.command?,
    flatMap_zipIdx_eq_nil_iff fun check entry => entryCommands_eq_nil_iff policy step.id _ check.command?]
  simp only [Step.commands, List.mem_append, List.mem_filterMap]
  constructor
  · rintro ⟨hops, hchecks⟩ command (⟨op, hop, hcommand⟩ | ⟨check, hcheck, hcommand⟩)
    · exact hops op hop command hcommand
    · exact hchecks check hcheck command hcommand
  · intro h
    exact ⟨fun op hop command hcommand => h command (.inl ⟨op, hop, hcommand⟩),
      fun check hcheck command hcommand => h command (.inr ⟨check, hcheck, hcommand⟩)⟩

theorem commands_eq_nil_iff (policy : CommandsPolicy) (steps : List Step) :
    commands policy steps = [] ↔ ∀ step ∈ steps, ∀ command ∈ step.commands, policy.violations command = [] := by
  rw [commands, flatMap_zipIdx_eq_nil_iff fun step index => stepCommands_eq_nil_iff policy index step]

theorem allErrors_commands (policy : CommandsPolicy) (steps : List Step) : AllErrors (commands policy steps) := by
  have hentry : ∀ step place command, AllErrors (entryCommands policy step place command) := by
    intro step place command
    cases command with
    | none => exact AllErrors.nil
    | some line => exact AllErrors.map fun violation => by cases violation <;> simp [commandFinding]
  exact AllErrors.flatMap fun _ =>
    (AllErrors.flatMap fun _ => hentry _ _ _).append (AllErrors.flatMap fun _ => hentry _ _ _)

/-! ### Proofs and artifacts -/

theorem proofs_eq_nil_iff (steps : List Step) :
    proofs steps = [] ↔ ∀ step ∈ steps, step.ops ≠ [] → step.checks ≠ [] := by
  refine flatMap_zipIdx_eq_nil_iff fun step index => ?_
  simp [stepProofs, Step.hasOps]

theorem allErrors_proofs (steps : List Step) : AllErrors (proofs steps) := by
  refine AllErrors.flatMap fun ⟨step, index⟩ => ?_
  simp only [stepProofs]
  split
  · exact AllErrors.singleton (by simp)
  · exact AllErrors.nil

theorem mem_written_iff (steps : List Step) (path : String) :
    path ∈ written steps ↔ ∃ step ∈ steps, ∃ target ∈ step.targets, Path.normalize target = path := by
  simp only [written, Step.targets, List.mem_map, List.mem_filterMap, List.mem_flatMap]
  constructor
  · rintro ⟨target, ⟨op, ⟨step, hstep, hop⟩, htarget⟩, rfl⟩
    exact ⟨step, hstep, target, ⟨op, hop, htarget⟩, rfl⟩
  · rintro ⟨step, hstep, target, ⟨op, hop, htarget⟩, rfl⟩
    exact ⟨target, ⟨op, ⟨step, hstep, hop⟩, htarget⟩, rfl⟩

theorem artifacts_eq_nil_iff (spec : Spec) (steps : List Step) :
    artifacts spec steps = [] ↔ ∀ required, spec.artifacts = some required → ∀ artifact ∈ required,
      artifact.mustWrite = true →
        ∃ step ∈ steps, ∃ target ∈ step.targets, Path.normalize target = Path.normalize artifact.path := by
  cases hrequired : spec.artifacts with
  | none => simp [artifacts, hrequired]
  | some required =>
    simp only [artifacts, hrequired, Option.some.injEq, forall_eq', ← mem_written_iff]
    refine flatMap_zipIdx_eq_nil_iff fun artifact index => ?_
    simp

theorem allErrors_artifacts (spec : Spec) (steps : List Step) : AllErrors (artifacts spec steps) := by
  unfold artifacts
  split
  · exact AllErrors.nil
  · refine AllErrors.flatMap fun ⟨artifact, index⟩ => ?_
    dsimp only
    split
    · exact AllErrors.singleton (by simp)
    · exact AllErrors.nil

/-! ### Claims -/

/-- What the pass over claims reports of a step. -/
def stepClaims (invariants : List String) (index : Nat) (step : Step) : List Diagnostic :=
  (if step.hasOps && step.claims.isEmpty then
    [finding .stepNoClaims ("step '" ++ step.id ++ "' has ops but claims no invariant") (stepPlace index)]
  else []) ++
    (step.claims.filter fun claim => !invariants.contains claim).map fun claim =>
      finding .unknownClaim ("step '" ++ step.id ++ "' claims unknown invariant '" ++ claim ++ "'")
        (stepPlace index ++ ".claims")

namespace ClaimTally

variable {invariants : List String}

theorem foldl_count (index : Nat) (step : String) (claims : List String) (tally : ClaimTally) :
    claims.foldl (count invariants index step) tally =
      ⟨tally.found ++ (claims.filter fun claim => !invariants.contains claim).map fun claim =>
          finding .unknownClaim ("step '" ++ step ++ "' claims unknown invariant '" ++ claim ++ "'")
            (stepPlace index ++ ".claims"),
        (claims.filter fun claim => invariants.contains claim).reverse ++ tally.claimed⟩ := by
  induction claims generalizing tally with
  | nil => simp
  | cons claim rest ih =>
    rw [List.foldl_cons, ih, count]
    by_cases hdeclared : claim ∈ invariants
    · simp [hdeclared]
    · simp [hdeclared]

/-- One step of the pass: it reports what is wrong with the claims of a step and counts the others. -/
theorem visit_eq (tally : ClaimTally) (step : Step) (index : Nat) :
    visit invariants tally (step, index) =
      ⟨tally.found ++ stepClaims invariants index step,
        (step.claims.filter fun claim => invariants.contains claim).reverse ++ tally.claimed⟩ := by
  rw [visit, foldl_count, stepClaims]
  split
  · simp
  · simp

theorem found_foldl_visit (entries : List (Step × Nat)) (tally : ClaimTally) :
    (entries.foldl (visit invariants) tally).found =
      tally.found ++ entries.flatMap fun (step, index) => stepClaims invariants index step := by
  induction entries generalizing tally with
  | nil => simp
  | cons entry rest ih => rw [List.foldl_cons, ih, visit_eq, List.flatMap_cons, List.append_assoc]

/-- The invariants that were counted are the declared ones that some step claims. -/
theorem mem_claimed_foldl_visit_iff (entries : List (Step × Nat)) (tally : ClaimTally) {id : String} :
    id ∈ (entries.foldl (visit invariants) tally).claimed ↔
      id ∈ tally.claimed ∨ id ∈ invariants ∧ ∃ entry ∈ entries, id ∈ entry.1.claims := by
  induction entries generalizing tally with
  | nil => simp
  | cons entry rest ih =>
    rw [List.foldl_cons, ih, visit_eq]
    simp only [List.mem_append, List.mem_reverse, List.mem_filter, List.contains_iff_mem, List.mem_cons,
      exists_eq_or_imp]
    grind

end ClaimTally

/-- The pass over claims, told by its steps: an invariant is left over when no step claims it. -/
theorem claimsAgainst_eq (invariants : List String) (steps : List Step) :
    claimsAgainst invariants steps =
      (steps.zipIdx.flatMap fun (step, index) => stepClaims invariants index step) ++
        (invariants.filter fun id => !steps.any fun step => step.claims.contains id).map fun id =>
          finding .unclaimedInvariant ("invariant '" ++ id ++ "' is not claimed by any step") "intent.invariants" := by
  rw [claimsAgainst, ClaimTally.found_foldl_visit, List.nil_append]
  congr 2
  -- a declared invariant was counted exactly if some step claims it
  refine List.filter_congr fun id hid => congrArg not ?_
  rw [Bool.eq_iff_iff, List.contains_iff_mem, ClaimTally.mem_claimed_foldl_visit_iff, List.any_eq_true]
  simp only [List.not_mem_nil, false_or, and_iff_right hid, List.contains_iff_mem]
  constructor
  · rintro ⟨⟨step, index⟩, hmem, hclaim⟩
    exact ⟨step, List.fst_mem_of_mem_zipIdx hmem, hclaim⟩
  · rintro ⟨step, hstep, hclaim⟩
    obtain ⟨index, hmem⟩ := exists_mem_zipIdx hstep
    exact ⟨(step, index), hmem, hclaim⟩

theorem mem_invariantIds_iff {spec : Spec} {id : String} :
    id ∈ invariantIds spec ↔ ∃ invariant ∈ spec.invariants, invariant.id = id := by
  rw [invariantIds, Table.mem_names_ofList_iff, List.map_map]
  simp

theorem allErrors_claims (spec : Spec) (steps : List Step) : AllErrors (claims spec steps) := by
  have hstep : ∀ invariants index step, AllErrors (stepClaims invariants index step) := by
    intro invariants index step
    refine AllErrors.append ?_ (AllErrors.map fun claim => by simp)
    split
    · exact AllErrors.singleton (by simp)
    · exact AllErrors.nil
  unfold claims
  split
  · split
    · split
      · exact AllErrors.singleton (by simp)
      · exact AllErrors.nil
    · rw [claimsAgainst_eq]
      exact (AllErrors.flatMap fun _ => hstep _ _ _).append (AllErrors.map fun id => by simp)
  · exact AllErrors.nil

/-! ### Decisions -/

theorem allErrors_duplicates (records : List Decision) (seen : List String) (index : Nat) :
    AllErrors (duplicates seen index records) := by
  induction records generalizing seen index with
  | nil => exact AllErrors.nil
  | cons record rest ih =>
    refine AllErrors.append ?_ (ih _ _)
    split
    · exact AllErrors.singleton (by simp)
    · exact AllErrors.nil

theorem allErrors_assumptionFindings (resolve : String → Option Decision) (index : Nat) (assumption : Assumption) :
    AllErrors (assumptionFindings resolve index assumption) := by
  refine AllErrors.append ?_ ?_
  · split
    · exact AllErrors.nil
    · exact AllErrors.singleton (by simp)
  · split
    · exact AllErrors.singleton (by simp)
    · split
      · exact AllErrors.nil
      · exact AllErrors.singleton (by simp)

theorem allErrors_referenceFindings (resolve : String → Option Decision) (index : Nat) (step id : String) :
    AllErrors (referenceFindings resolve index step id) := by
  dsimp only [referenceFindings]
  split
  · exact AllErrors.singleton (by simp)
  · split
    · exact AllErrors.nil
    · exact AllErrors.singleton (by simp)

theorem allErrors_decisions (spec : Spec) (resolve : String → Option Decision) (steps : List Step) :
    AllErrors (decisions spec resolve steps) :=
  ((allErrors_duplicates _ _ _).append (AllErrors.flatMap fun _ => allErrors_assumptionFindings _ _ _)).append
    (AllErrors.flatMap fun _ => AllErrors.flatMap fun _ => allErrors_referenceFindings _ _ _ _)

theorem allErrors_treeFinding (fault : DecisionFault) : AllErrors (treeFinding? fault).toList := by
  cases fault <;> simp [treeFinding?, AllErrors]

/-! ### Order -/

/-- What this pass finds is advice. -/
theorem hasErrors_requiresFrom (steps : List Step) (earlier : List String) (index : Nat) :
    hasErrors (requiresFrom earlier index steps) = false := by
  induction steps generalizing earlier index with
  | nil => rfl
  | cons step rest ih =>
    rw [requiresFrom, hasErrors_append, ih, Bool.or_false, hasErrors, List.any_map, List.any_eq_false]
    intro required _
    simp [Diagnostic.isError_iff]

theorem hasErrors_requiresOrder (steps : List Step) : hasErrors (requiresOrder steps) = false :=
  hasErrors_requiresFrom steps [] 0

end Guardrail

end GuardedPlan
