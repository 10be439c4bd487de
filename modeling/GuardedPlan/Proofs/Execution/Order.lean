import GuardedPlan.Proofs.Execution.Course
import GuardedPlan.Proofs.Execution.Preflight

/-!
# Runs are in order

A run goes through the items of a plan from the first one on and through nothing else: what it attempts is a beginning of the plan's sequence, and it is cut short by a failure only. A shortfall that is merely reported does not cut it short, and only fuzzy expectations that do not gate are reported that way.
-/

namespace GuardedPlan

variable {σ : Type}

/-! ### Courses along the sequence of a plan -/

theorem sequence_append (before after : List Step) : sequence (before ++ after) = sequence before ++ sequence after :=
  List.flatMap_append

theorem sequence_split {before after : List Step} {step : Step} {done rest : List Item} {item : Item}
    (h : step.items = done ++ item :: rest) :
    sequence (before ++ step :: after) =
      sequence before ++ done.map (step.id, ·) ++ (step.id, item) :: (rest.map (step.id, ·) ++ sequence after) := by
  rw [sequence_append, sequence, sequence, List.flatMap_cons, h]
  simp [sequence]

namespace Course

/-- What is attempted is a beginning of the sequence. -/
theorem Ends.attempts_prefix {steps : List Step} {course : Course σ} {ending : Except Failure Nat}
    (h : course.Ends steps ending) : course.attempts.map Attempt.place <+: sequence steps := by
  cases h with
  | completed hfailed hbegun hdone =>
    have hall : course.attempts.map Attempt.place = sequence steps := by
      rw [attempts, hfailed, Option.toList_none, List.append_nil, hdone]
    exact ⟨[], (List.append_nil _).trans hall⟩
  | stopped hfailed hresult hstep hsteps hbegun hitems hdone =>
    rw [hsteps, sequence_split hitems, attempts, hfailed, List.map_append, hdone]
    simp [Attempt.place, hstep]

/-- Everything is completed exactly when the run succeeds. -/
theorem Ends.isOk_iff {steps : List Step} {course : Course σ} {ending : Except Failure Nat}
    (h : course.Ends steps ending) :
    (∃ count, ending = .ok count) ↔ course.completed.map Attempt.place = sequence steps := by
  cases h with
  | completed hfailed hbegun hdone => simp [hdone]
  | stopped hfailed hresult hstep hsteps hbegun hitems hdone =>
    rw [hsteps, sequence_split hitems, hdone]
    simp

/-- A course of a run of steps from a world to what the run came to. The completed items begin the sequence of the steps, they are all of it exactly when the run succeeds, and otherwise the item after them is the last one attempted. -/
structure InOrder (course : Course σ) (performer : Performer σ) (steps : List Step) (world : World σ)
    (outcome : Except Failure Nat × World σ) : Prop where
  covers : performer.Covers course world outcome.2
  done : course.completed.map Attempt.place <+: sequence steps
  tried : course.attempts.map Attempt.place <+: sequence steps
  whole : (∃ count, outcome.1 = .ok count) ↔ course.completed.map Attempt.place = sequence steps
  ends : course.Ends steps outcome.1

end Course

theorem exists_inOrder_runSteps (performer : Performer σ) (steps : List Step) (world : World σ) :
    ∃ course : Course σ, course.InOrder performer steps world (runSteps performer steps world) := by
  obtain ⟨course, hcovers, hends⟩ := exists_covers_runSteps performer steps world
  have hdone : course.completed.map Attempt.place <+: course.attempts.map Attempt.place :=
    (List.prefix_append _ _).map _
  exact ⟨course, hcovers, hdone.trans hends.attempts_prefix, hends.attempts_prefix, hends.isOk_iff, hends⟩

/-! ### Shortfalls that are only reported -/

/-- A fuzzy expectation that does not gate is not met by the text of its file. -/
def Item.FallsShort (item : Item) (directory : String) (tree : FileTree) (found : Shortfall) : Prop :=
  ∃ path text threshold body, item = .check (.docResembles path text threshold false) ∧
    tree.textBelow directory path = .ok (some body) ∧
    (Similarity.bestScore body.toList text.toList).reaches threshold = false ∧
    found = .unlike path text (Similarity.bestScore body.toList text.toList) threshold

namespace Verdict

theorem require_ne_warn (holds : Bool) (shortfall found : Shortfall) : require holds shortfall ≠ .warn found := by
  cases holds <;> simp [require]

theorem ofText_ne_warn {text : Option String} {absent found : Shortfall} {judge : String → Verdict}
    (h : ∀ body, judge body ≠ .warn found) : ofText text absent judge ≠ .warn found := by
  cases text with
  | none => simp [ofText]
  | some body => exact h body

theorem map_ne_warn {ε α : Type} {result : Except ε α} {judge : α → Verdict} {found : Shortfall}
    (h : ∀ value, judge value ≠ .warn found) : result.map judge ≠ .ok (.warn found) := by
  intro hok
  obtain ⟨value, -, hjudge⟩ := Except.map_eq_ok_iff.1 hok
  exact h value hjudge

theorem judge_eq_warn_iff {reached gate : Bool} {shortfall found : Shortfall} :
    (if reached then pass else if gate then fail shortfall else warn shortfall) = warn found ↔
      reached = false ∧ gate = false ∧ shortfall = found := by
  cases reached <;> cases gate <;> simp

end Verdict

theorem Routing.verdict_ne_warn (routing : Option Routing) (tree : FileTree) (workDirectory directory route : String)
    (found : Shortfall) : verdict routing tree workDirectory directory route ≠ .ok (.warn found) := by
  rcases routing with - | ⟨pagesDirectory, pageFile⟩ | ⟨routesFile⟩
  · simp [verdict]
  · exact Verdict.map_ne_warn fun _ => Verdict.require_ne_warn _ _ _
  · exact Verdict.map_ne_warn fun _ => Verdict.ofText_ne_warn fun _ => Verdict.require_ne_warn _ _ _

theorem TrackedFiles.verdict_ne_warn (list? : Option (String → Except ListingFault (List String)))
    (workDirectory directory pattern : String) (allow : List String) (found : Shortfall) :
    verdict list? workDirectory directory pattern allow ≠ .ok (.warn found) := by
  unfold verdict
  split
  · simp
  · split
    · simp
    · split
      · simp
      · simp [Verdict.require_ne_warn]

/-- A fuzzy expectation is the one kind of check whose shortfall may be only reported. -/
theorem Check.exists_docResembles_of_warn {check : Check} {host : Host σ} {manifest : Manifest} {world : World σ}
    {found : Shortfall} (h : (check.evaluate host manifest world).1 = .ok (.warn found)) :
    ∃ path text threshold gate, check = .docResembles path text threshold gate := by
  cases check with
  | docResembles path text threshold gate => exact ⟨path, text, threshold, gate, rfl⟩
  | fileExists path => exact absurd h (Verdict.map_ne_warn fun _ => Verdict.require_ne_warn _ _ _)
  | artifactExists path => exact absurd h (Verdict.map_ne_warn fun _ => Verdict.require_ne_warn _ _ _)
  | fileContains path text =>
    exact absurd h (Verdict.map_ne_warn fun _ => Verdict.ofText_ne_warn fun _ => Verdict.require_ne_warn _ _ _)
  | docContains path text =>
    exact absurd h (Verdict.map_ne_warn fun _ => Verdict.ofText_ne_warn fun _ => Verdict.require_ne_warn _ _ _)
  | docSection path title =>
    exact absurd h (Verdict.map_ne_warn fun _ => Verdict.ofText_ne_warn fun _ => Verdict.require_ne_warn _ _ _)
  | routeExists directory route => exact absurd h (Routing.verdict_ne_warn _ _ _ _ _ _)
  | commandSucceeds command =>
    rw [evaluate] at h
    split at h
    · cases h
    · simp [Verdict.require_ne_warn] at h
  | trackedOnly directory pattern allow =>
    rw [evaluate] at h
    dsimp only at h
    split at h
    · exact absurd h (TrackedFiles.verdict_ne_warn _ _ _ _ _ _)
    · cases h
    · cases h

theorem Check.evaluate_docResembles_eq_warn_iff {path text : String} {threshold : Binary64} {gate : Bool}
    {host : Host σ} {manifest : Manifest} {world : World σ} {found : Shortfall} :
    ((Check.docResembles path text threshold gate).evaluate host manifest world).1 = .ok (.warn found) ↔
      gate = false ∧ ∃ body, world.tree.textBelow host.directory path = .ok (some body) ∧
        (Similarity.bestScore body.toList text.toList).reaches threshold = false ∧
        found = .unlike path text (Similarity.bestScore body.toList text.toList) threshold := by
  rw [evaluate, Except.map_eq_ok_iff]
  constructor
  · rintro ⟨content, hcontent, hjudge⟩
    cases content with
    | none => simp [Verdict.ofText] at hjudge
    | some body =>
      rw [Verdict.ofText] at hjudge
      obtain ⟨hreaches, hgate, hfound⟩ := Verdict.judge_eq_warn_iff.1 hjudge
      exact ⟨hgate, body, hcontent, hreaches, hfound.symm⟩
  · rintro ⟨hgate, body, hcontent, hreaches, hfound⟩
    refine ⟨some body, hcontent, ?_⟩
    rw [Verdict.ofText]
    exact Verdict.judge_eq_warn_iff.2 ⟨hreaches, hgate, hfound.symm⟩

theorem Item.attempt_eq_shortfall_iff {item : Item} {host : Host σ} {target : String} {manifest : Manifest}
    {world : World σ} {found : Shortfall} :
    (item.attempt host target manifest world).1 = .ok (some found) ↔
      item.FallsShort host.directory world.tree found := by
  cases item with
  | op action =>
    rw [attempt]
    rcases action.apply host target world with ⟨fault | done, after⟩
    · simp [FallsShort]
    · simp [FallsShort]
  | check proof =>
    have hattempt : (Item.attempt (.check proof) host target manifest world).1 = .ok (some found) ↔
        (proof.evaluate host manifest world).1 = .ok (.warn found) := by
      rw [attempt]
      rcases proof.evaluate host manifest world with ⟨fault | verdict, after⟩
      · simp
      · cases verdict <;> simp
    rw [hattempt]
    constructor
    · intro hwarn
      obtain ⟨path, text, threshold, gate, rfl⟩ := Check.exists_docResembles_of_warn hwarn
      obtain ⟨rfl, body, hbody, hreaches, hfound⟩ := Check.evaluate_docResembles_eq_warn_iff.1 hwarn
      exact ⟨path, text, threshold, body, rfl, hbody, hreaches, hfound⟩
    · rintro ⟨path, text, threshold, body, hitem, hbody, hreaches, hfound⟩
      cases hitem
      exact Check.evaluate_docResembles_eq_warn_iff.2 ⟨rfl, body, hbody, hreaches, hfound⟩

/-! ### Executions -/

/-- Past preflight an execution is in order, whatever attempting an item does to files and however commands, templates and files answer; what it reports without failing is how fuzzy expectations that do not gate fall short. -/
theorem Plan.execute_in_order {plan : Plan} {host : Host σ} {world : World σ} {manifest : Manifest}
    (hpreflight : plan.preflight (host.registry.manifests world.tree) = .ok manifest) :
    (∃ course : Course σ, course.InOrder (host.performer plan.target manifest) plan.steps world
      (plan.execute host world)) ∧
    (∀ performer : Performer σ, ∃ course : Course σ, course.InOrder performer plan.steps world
      (runSteps performer plan.steps world)) ∧
    ∀ item before found, ((host.performer plan.target manifest).attempt item before).1 = .ok (some found) ↔
      item.FallsShort host.directory before.tree found := by
  refine ⟨?_, fun performer => exists_inOrder_runSteps performer plan.steps world,
    fun item before found => Item.attempt_eq_shortfall_iff⟩
  rw [execute, hpreflight]
  exact exists_inOrder_runSteps _ plan.steps world

namespace Sample

/-- A host that knows the manifest for every target and where every command succeeds at once. -/
def host : Host Unit where
  directory := "."
  registry := ⟨fun _ => lookup, fun _ _ path => .error path⟩
  run _ tree state := { result := .ok ⟨some 0, false⟩, tree, state }

theorem exists_manifest : ∃ manifest, plan.preflight lookup = .ok manifest := by
  obtain ⟨spec, manifest, policy, -, hmanifest, hpolicy, hsilent, hplan⟩ := compile_plan_eq_some.1 compile_text
  rw [hplan]
  exact ⟨manifest, Compilation.preflight_emitted hmanifest hpolicy hsilent⟩

end Sample

theorem Plan.execute_in_order_sample :
    ∃ manifest, Sample.plan.preflight (Sample.host.registry.manifests FileTree.empty) = .ok manifest ∧
      (∃ course : Course Unit, course.InOrder (Sample.host.performer Sample.plan.target manifest) Sample.plan.steps
        ⟨.empty, (), []⟩ (Sample.plan.execute Sample.host ⟨.empty, (), []⟩)) ∧
      (∀ performer : Performer Unit, ∃ course : Course Unit, course.InOrder performer Sample.plan.steps
        ⟨.empty, (), []⟩ (runSteps performer Sample.plan.steps ⟨.empty, (), []⟩)) ∧
      ∀ item before found,
        ((Sample.host.performer Sample.plan.target manifest).attempt item before).1 = .ok (some found) ↔
          item.FallsShort Sample.host.directory before.tree found := by
  obtain ⟨manifest, hpreflight⟩ := Sample.exists_manifest
  exact ⟨manifest, hpreflight, Plan.execute_in_order hpreflight⟩

end GuardedPlan
