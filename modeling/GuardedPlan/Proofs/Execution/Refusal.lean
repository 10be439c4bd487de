import GuardedPlan.Proofs.Compile.Gate
import GuardedPlan.Proofs.Execution.Order
import GuardedPlan.Proofs.FileTree.Changes

/-!
# Refused plans

Preflight looks at every item of every step, so a plan is refused even for the last check of its last step, and then nothing has happened yet. A plan that is not refused hands over no command and writes to no path that its manifest does not permit. Paths are judged as the plan spells them.
-/

namespace GuardedPlan

variable {σ : Type}

/-! ### What an item does -/

/-- The path an item writes to, if it writes to one. -/
def Item.target? : Item → Option String
  | op action => action.target?
  | check _ => none

theorem Step.mem_targets_iff {step : Step} {path : String} :
    path ∈ step.targets ↔ ∃ item ∈ step.items, item.target? = some path := by
  have hchecks : step.checks.filterMap (Item.target? ∘ Item.check) = [] :=
    List.filterMap_eq_nil_iff.2 fun _ _ => rfl
  have htargets : step.targets = step.items.filterMap Item.target? := by
    rw [items, List.filterMap_append, List.filterMap_map, List.filterMap_map, hchecks, List.append_nil]
    rfl
  rw [htargets, List.mem_filterMap]

theorem Step.mem_commands_iff {step : Step} {command : String} :
    command ∈ step.commands ↔ ∃ item ∈ step.items, item.command? = some command := by
  have hcommands : step.commands = step.items.filterMap Item.command? := by
    rw [items, List.filterMap_append, List.filterMap_map, List.filterMap_map]
    rfl
  rw [hcommands, List.mem_filterMap]

/-- Nothing speaks against the path that an item writes to or against the command that it runs. -/
structure Item.Permitted (item : Item) (writes : WritePolicy) (commands : CommandsPolicy) : Prop where
  target : ∀ path, item.target? = some path → writes.violations path = []
  command : ∀ command, item.command? = some command → commands.violations command = []

theorem Op.changesOnly_apply {op : Op} (h : op.command? = none) (host : Host σ) (target : String) (world : World σ) :
    world.tree.ChangesOnly (op.apply host target world).2.tree
      (op.target?.toList.map fun path => world.tree.destination (Path.below host.directory path)) := by
  cases op with
  | run command => cases h
  | writeFile path content => exact (world.tree.putsBelow_writeBelow host.directory path content).changesOnly
  | appendFile path content => exact (world.tree.putsBelow_appendBelow host.directory path content).changesOnly
  | writeTemplate path template vars =>
    rw [apply]
    cases host.registry.template world.tree target template with
    | error message => exact .refl _ _
    | ok source => exact (world.tree.putsBelow_writeBelow host.directory path _).changesOnly

theorem Check.evaluate_snd {check : Check} (h : check.command? = none) (host : Host σ) (manifest : Manifest)
    (world : World σ) : (check.evaluate host manifest world).2 = world := by
  cases check with
  | commandSucceeds command => cases h
  | trackedOnly directory pattern allow =>
    rw [evaluate]
    dsimp only
    split <;> rfl
  | _ => rfl

theorem Item.attempt_op_snd (action : Op) (host : Host σ) (target : String) (manifest : Manifest) (world : World σ) :
    ((Item.op action).attempt host target manifest world).2 = (action.apply host target world).2 := by
  rw [attempt]
  generalize action.apply host target world = outcome
  obtain ⟨fault | done, after⟩ := outcome
  · rfl
  · rfl

theorem Item.attempt_check_snd (proof : Check) (host : Host σ) (target : String) (manifest : Manifest)
    (world : World σ) :
    ((Item.check proof).attempt host target manifest world).2 = (proof.evaluate host manifest world).2 := by
  rw [attempt]
  generalize proof.evaluate host manifest world = outcome
  obtain ⟨fault | verdict, after⟩ := outcome
  · rfl
  · cases verdict <;> rfl

/-- An item that runs no command changes only what its path leads to. -/
theorem Item.changesOnly_attempt {item : Item} (h : item.command? = none) (host : Host σ) (target : String)
    (manifest : Manifest) (world : World σ) :
    world.tree.ChangesOnly (item.attempt host target manifest world).2.tree
      (item.target?.toList.map fun path => world.tree.destination (Path.below host.directory path)) := by
  cases item with
  | op action =>
    rw [attempt_op_snd]
    exact Op.changesOnly_apply h host target world
  | check proof =>
    rw [attempt_check_snd, Check.evaluate_snd h]
    exact .refl _ _

/-! ### What a plan is refused for -/

/-- What speaks against a plan before anything of it is attempted. -/
inductive Plan.Refused (plan : Plan) (lookup : ManifestLookup) : Prop
  | language (hlang : plan.lang ≠ Plan.language)
  | target (hnone : ∀ manifest, Manifest.resolve lookup plan.target ≠ .ok manifest)
  | preset {manifest : Manifest} (hmanifest : Manifest.resolve lookup plan.target = .ok manifest)
      (hversion : manifest.presetVersion ≠ plan.presetVersion)
  | glob {manifest : Manifest} {sources : List String} {bad : BadGlob}
      (hmanifest : Manifest.resolve lookup plan.target = .ok manifest)
      (hsources : sources = manifest.effectsPolicy.allowWrite ∨ sources = manifest.effectsPolicy.denyWrite)
      (hbad : Glob.parseAll sources = .error bad)
  | write {manifest : Manifest} {policy : WritePolicy} {step : Step} {item : Item} {path : String}
      (hmanifest : Manifest.resolve lookup plan.target = .ok manifest) (hpolicy : manifest.writePolicy = .ok policy)
      (hstep : step ∈ plan.steps) (hitem : item ∈ step.items) (htarget : item.target? = some path)
      (hviolations : policy.violations path ≠ [])
  | command {manifest : Manifest} {step : Step} {item : Item} {command : String}
      (hmanifest : Manifest.resolve lookup plan.target = .ok manifest)
      (hstep : step ∈ plan.steps) (hitem : item ∈ step.items) (hcommand : item.command? = some command)
      (hviolations : manifest.commands.violations command ≠ [])

namespace Plan

theorem problems_eq_nil_iff_permitted (plan : Plan) (writes : WritePolicy) (commands : CommandsPolicy) :
    plan.problems writes commands = [] ↔ ∀ step ∈ plan.steps, ∀ item ∈ step.items, item.Permitted writes commands := by
  rw [problems_eq_nil_iff]
  constructor
  · intro hnone step hstep item hitem
    obtain ⟨htargets, hcommands⟩ := hnone step hstep
    exact ⟨fun path htarget => htargets path (Step.mem_targets_iff.2 ⟨item, hitem, htarget⟩),
      fun command hcommand => hcommands command (Step.mem_commands_iff.2 ⟨item, hitem, hcommand⟩)⟩
  · intro hpermitted step hstep
    refine ⟨fun path hpath => ?_, fun command hmem => ?_⟩
    · obtain ⟨item, hitem, htarget⟩ := Step.mem_targets_iff.1 hpath
      exact (hpermitted step hstep item hitem).target path htarget
    · obtain ⟨item, hitem, hcommand⟩ := Step.mem_commands_iff.1 hmem
      exact (hpermitted step hstep item hitem).command command hcommand

theorem not_refused_of_preflight {plan : Plan} {lookup : ManifestLookup} {manifest : Manifest}
    (h : plan.preflight lookup = .ok manifest) : ¬ plan.Refused lookup := by
  obtain ⟨hlang, hmanifest, hversion, policy, hpolicy, hnone⟩ := preflight_eq_ok_iff.1 h
  have hpermitted := (problems_eq_nil_iff_permitted _ _ _).1 hnone
  have hsame : ∀ {other}, Manifest.resolve lookup plan.target = .ok other → other = manifest := by
    intro other hother
    rw [hmanifest] at hother
    exact (Except.ok.inj hother).symm
  intro hrefused
  cases hrefused with
  | language hother => exact hother hlang
  | target hmissing => exact hmissing manifest hmanifest
  | preset hother hstale =>
    cases hsame hother
    exact hstale hversion
  | glob hother hsources hbad =>
    cases hsame hother
    obtain ⟨⟨allow, hallow⟩, deny, hdeny⟩ := manifest.exists_writePolicy_iff.1 ⟨policy, hpolicy⟩
    rcases hsources with rfl | rfl
    · rw [hallow] at hbad
      cases hbad
    · rw [hdeny] at hbad
      cases hbad
  | write hother hgiven hstep hitem htarget hviolations =>
    cases hsame hother
    cases hpolicy.symm.trans hgiven
    exact hviolations ((hpermitted _ hstep _ hitem).target _ htarget)
  | command hother hstep hitem hcommand hviolations =>
    cases hsame hother
    exact hviolations ((hpermitted _ hstep _ hitem).command _ hcommand)

/-- What is not refused has a manifest that permits all its items. -/
theorem exists_policy_of_not_refused {plan : Plan} {lookup : ManifestLookup} (h : ¬ plan.Refused lookup) :
    ∃ manifest policy, plan.preflight lookup = .ok manifest ∧ Manifest.resolve lookup plan.target = .ok manifest ∧
      manifest.writePolicy = .ok policy ∧
      ∀ step ∈ plan.steps, ∀ item ∈ step.items, item.Permitted policy manifest.commands := by
  have hlang : plan.lang = language := Classical.byContradiction fun hother => h (.language hother)
  cases hmanifest : Manifest.resolve lookup plan.target with
  | error finding => exact absurd (.target (by simp [hmanifest])) h
  | ok manifest =>
    have hversion : manifest.presetVersion = plan.presetVersion :=
      Classical.byContradiction fun hother => h (.preset hmanifest hother)
    have hread : ∀ sources, sources = manifest.effectsPolicy.allowWrite ∨
        sources = manifest.effectsPolicy.denyWrite → ∃ globs, Glob.parseAll sources = .ok globs := by
      intro sources hsources
      cases hglobs : Glob.parseAll sources with
      | ok globs => exact ⟨globs, rfl⟩
      | error bad => exact absurd (.glob hmanifest hsources hglobs) h
    obtain ⟨policy, hpolicy⟩ := manifest.exists_writePolicy_iff.2 ⟨hread _ (.inl rfl), hread _ (.inr rfl)⟩
    have hpermitted : ∀ step ∈ plan.steps, ∀ item ∈ step.items, item.Permitted policy manifest.commands := by
      intro step hstep item hitem
      refine ⟨fun path htarget => ?_, fun command hcommand => ?_⟩
      · exact Classical.byContradiction fun hviolations => h (.write hmanifest hpolicy hstep hitem htarget hviolations)
      · exact Classical.byContradiction fun hviolations => h (.command hmanifest hstep hitem hcommand hviolations)
    have hproblems := (problems_eq_nil_iff_permitted _ _ _).2 hpermitted
    exact ⟨manifest, policy, preflight_eq_ok_iff.2 ⟨hlang, hmanifest, hversion, policy, hpolicy, hproblems⟩, rfl,
      hpolicy, hpermitted⟩

end Plan

/-! ### What an execution does -/

/-- An attempt at a permitted item hands over nothing but permitted commands, and unless its item runs a command it changes only what the path of the item leads to. -/
structure Attempt.Permitted (attempt : Attempt σ) (directory : String) (writes : WritePolicy)
    (commands : CommandsPolicy) : Prop where
  item : attempt.item.Permitted writes commands
  handed : ∀ command ∈ attempt.handed, commands.violations command = []
  changed : attempt.item.command? = none → attempt.before.tree.ChangesOnly attempt.after.tree
    (attempt.item.target?.toList.map fun path => attempt.before.tree.destination (Path.below directory path))

theorem Performer.Chains.attempt_eq {performer : Performer σ} {attempts : List (Attempt σ)} {world final : World σ}
    (h : performer.Chains world attempts final) {attempt : Attempt σ} (hmem : attempt ∈ attempts) :
    performer.attempt attempt.item attempt.before = (attempt.result, attempt.after) := by
  induction attempts generalizing world with
  | nil => cases hmem
  | cons first rest ih =>
    rcases List.mem_cons.1 hmem with rfl | hmem
    · exact h.2.1
    · exact ih h.2.2 hmem

/-- The only command that an attempt hands over is that of its item. -/
theorem Performer.command?_of_mem_handed {performer : Performer σ} {attempt : Attempt σ}
    (h : performer.attempt attempt.item attempt.before = (attempt.result, attempt.after)) {command : String}
    (hmem : command ∈ attempt.handed) : attempt.item.command? = some command := by
  have hlogs := performer.logsOnly_attempt attempt.item attempt.before
  rw [h] at hlogs
  obtain ⟨handed, hcommands, hown⟩ := hlogs.exists_commands
  rw [Attempt.handed, hcommands, List.drop_left] at hmem
  exact hown command hmem

theorem exists_item_of_mem_sequence {steps : List Step} {place : String × Item} (h : place ∈ sequence steps) :
    ∃ step ∈ steps, place.2 ∈ step.items := by
  obtain ⟨step, hstep, hplace⟩ := List.mem_flatMap.1 h
  obtain ⟨item, hitem, rfl⟩ := List.mem_map.1 hplace
  exact ⟨step, hstep, hitem⟩

/-- Where all items of the steps are permitted, a run does nothing else. -/
theorem Course.InOrder.permitted {course : Course σ} {host : Host σ} {target : String} {manifest : Manifest}
    {policy : WritePolicy} {steps : List Step} {world : World σ} {outcome : Except Failure Nat × World σ}
    (h : course.InOrder (host.performer target manifest) steps world outcome)
    (hpermitted : ∀ step ∈ steps, ∀ item ∈ step.items, item.Permitted policy manifest.commands) :
    ∀ attempt ∈ course.attempts, attempt.Permitted host.directory policy manifest.commands := by
  intro attempt hattempt
  have hmade := h.covers.chained.attempt_eq hattempt
  obtain ⟨step, hstep, hitem⟩ := exists_item_of_mem_sequence (h.tried.subset (List.mem_map_of_mem hattempt))
  have hown := hpermitted step hstep attempt.item hitem
  refine ⟨hown, fun command hhanded => hown.command command (Performer.command?_of_mem_handed hmade hhanded), ?_⟩
  intro hnone
  have hchanges := Item.changesOnly_attempt hnone host target manifest attempt.before
  rw [← Host.performer_attempt, hmade] at hchanges
  exact hchanges

/-- A plan is rejected exactly when it is refused, and then the world is as it was. Otherwise all that happens is a chain of permitted attempts. -/
theorem Plan.execute_rejects_iff_refused (plan : Plan) (host : Host σ) (world : World σ) :
    ((∃ rejection, (plan.execute host world).1 = .error (.rejected rejection)) ↔
      plan.Refused (host.registry.manifests world.tree)) ∧
    ((∃ rejection, plan.execute host world = (.error (.rejected rejection), world)) ∨
      (∀ rejection, (plan.execute host world).1 ≠ .error (.rejected rejection)) ∧
      ∃ manifest policy attempts, Manifest.resolve (host.registry.manifests world.tree) plan.target = .ok manifest ∧
        manifest.writePolicy = .ok policy ∧
        (host.performer plan.target manifest).Chains world attempts (plan.execute host world).2 ∧
        (plan.execute host world).2.commands = world.commands ++ attempts.flatMap Attempt.handed ∧
        ∀ attempt ∈ attempts, attempt.Permitted host.directory policy manifest.commands) := by
  by_cases hrefused : plan.Refused (host.registry.manifests world.tree)
  case pos =>
    cases hpreflight : plan.preflight (host.registry.manifests world.tree) with
    | ok manifest => exact absurd hrefused (not_refused_of_preflight hpreflight)
    | error rejection =>
      have hrejected : plan.execute host world = (.error (.rejected rejection), world) := by rw [execute, hpreflight]
      exact ⟨iff_of_true ⟨rejection, by rw [hrejected]⟩ hrefused, .inl ⟨rejection, hrejected⟩⟩
  case neg =>
    obtain ⟨manifest, policy, hpreflight, hmanifest, hpolicy, hpermitted⟩ := exists_policy_of_not_refused hrefused
    have hrun : plan.execute host world = runSteps (host.performer plan.target manifest) plan.steps world := by
      rw [execute, hpreflight]
    have hpasses : ∀ rejection, (plan.execute host world).1 ≠ .error (.rejected rejection) := by
      rw [hrun]
      exact runSteps_ne_rejected host plan.target manifest plan.steps world
    obtain ⟨course, hcourse⟩ := exists_inOrder_runSteps (host.performer plan.target manifest) plan.steps world
    rw [← hrun] at hcourse
    exact ⟨iff_of_false (not_exists.2 hpasses) hrefused, .inr ⟨hpasses, manifest, policy, course.attempts, hmanifest,
      hpolicy, hcourse.covers.chained, hcourse.covers.commands, hcourse.permitted hpermitted⟩⟩

/-- One check that is not permitted, at the very end of a plan, is enough to reject the plan. -/
example :
    let manifest : Json := .object
      [("commands", .object []), ("effectsPolicy", .object [("allowWrite", Json.strings ["a/*"])]),
        ("presetVersion", .string "1")]
    let steps : List Step :=
      [{ id := "s", ops := [.writeFile "a/b" "x"] }, { id := "late", checks := [.commandSucceeds "rm"] }]
    Plan.preflight ⟨Plan.language, "t", "1", "", steps⟩ (fun _ => .ok (some manifest)) matches
      .error (.problems [.command "late" "rm" (.notAllowed "rm")]) := by
  decide +kernel

end GuardedPlan
