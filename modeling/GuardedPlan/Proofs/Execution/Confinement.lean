import GuardedPlan.Proofs.Execution.Refusal
import GuardedPlan.Proofs.FileTree.Reading

/-!
# Executions stay in the working directory

Operations and checks hand the paths of a plan to the file tree as they are written, below the working directory. Every one of them goes through the test for contained paths first, so an operation changes nothing outside of a working directory that exists, and a check finds the same whatever stands outside of it. Commands and the repository are not held to this: they see the whole tree.
-/

namespace GuardedPlan

namespace FileTree

/-- Between two trees a directory stays, and nothing changed but at or below it. -/
structure ChangesWithin (directory : String) (before after : FileTree) : Prop where
  current : after.current = before.current
  stands : after.isDirectory directory = true
  outside : ∀ place, ¬ before.destination directory <+: place → after.entry? place = before.entry? place

theorem ChangesWithin.refl {directory : String} {tree : FileTree} (h : tree.isDirectory directory = true) :
    tree.ChangesWithin directory tree :=
  ⟨rfl, h, fun _ _ => rfl⟩

theorem ChangesWithin.trans {directory : String} {before middle after : FileTree}
    (hfirst : before.ChangesWithin directory middle) (hsecond : middle.ChangesWithin directory after) :
    before.ChangesWithin directory after := by
  have hdestination := destination_congr hfirst.current directory
  refine ⟨hsecond.current.trans hfirst.current, hsecond.stands, fun place hplace => ?_⟩
  rw [hsecond.outside place (hdestination ▸ hplace), hfirst.outside place hplace]

theorem Confined.changesWithin {directory : String} {before after : FileTree}
    (h : Confined (before.destination directory) before after) (hdirectory : before.isDirectory directory = true) :
    before.ChangesWithin directory after :=
  ⟨h.current, h.isDirectory hdirectory, h.outside⟩

theorem existsBelow_congr {first second : FileTree} {directory : String} (h : first.SameBelow directory second)
    (path : String) : first.existsBelow directory path = second.existsBelow directory path := by
  rw [existsBelow, existsBelow]
  by_cases hpath : Path.isContained path = true
  · rw [if_pos hpath, if_pos hpath, pathExists, pathExists, stat, stat, node_below_congr h hpath]
  · rw [if_neg hpath, if_neg hpath]

theorem textBelow_congr {first second : FileTree} {directory : String} (h : first.SameBelow directory second)
    (path : String) : first.textBelow directory path = second.textBelow directory path := by
  rw [textBelow, textBelow]
  by_cases hpath : Path.isContained path = true
  · have hstat : first.stat (Path.below directory path) = second.stat (Path.below directory path) := by
      rw [stat, stat, node_below_congr h hpath]
    rw [if_pos hpath, if_pos hpath, readIfFile, readIfFile, isFile, isFile, readText, readText, readBytes, readBytes,
      hstat]
  · rw [if_neg hpath, if_neg hpath]

end FileTree

variable {σ : Type}

/-! ### Checks -/

/-- Whether a check looks at files by itself, without a command or the repository. -/
def Check.readsFiles : Check → Bool
  | commandSucceeds _ => false
  | trackedOnly .. => false
  | _ => true

theorem Routing.verdict_congr {first second : FileTree} {workDirectory : String}
    (h : first.SameBelow workDirectory second) (routing : Option Routing) (directory route : String) :
    verdict routing first workDirectory directory route = verdict routing second workDirectory directory route := by
  rcases routing with - | ⟨pagesDirectory, pageFile⟩ | ⟨routesFile⟩
  · rfl
  · rw [verdict, verdict, FileTree.existsBelow_congr h]
  · rw [verdict, verdict, FileTree.textBelow_congr h]

/-- What a check finds in files depends on nothing outside of the working directory. -/
theorem Check.evaluate_congr {check : Check} (hreads : check.readsFiles = true) {host : Host σ} {first second : World σ}
    (h : first.tree.SameBelow host.directory second.tree) (manifest : Manifest) :
    (check.evaluate host manifest first).1 = (check.evaluate host manifest second).1 := by
  cases check with
  | commandSucceeds command => cases hreads
  | trackedOnly directory pattern allow => cases hreads
  | routeExists directory route => exact Routing.verdict_congr h _ _ _
  | fileExists path => rw [evaluate, evaluate, FileTree.existsBelow_congr h]
  | artifactExists path => rw [evaluate, evaluate, FileTree.existsBelow_congr h]
  | fileContains path text => rw [evaluate, evaluate, FileTree.textBelow_congr h]
  | docContains path text => rw [evaluate, evaluate, FileTree.textBelow_congr h]
  | docSection path title => rw [evaluate, evaluate, FileTree.textBelow_congr h]
  | docResembles path text threshold gate => rw [evaluate, evaluate, FileTree.textBelow_congr h]

/-! ### Operations -/

theorem Op.apply_writeTemplate {template target source : String} {host : Host σ} {world : World σ}
    (h : host.registry.template world.tree target template = .ok source) (path : String) (vars : Table String) :
    (Op.writeTemplate path template vars).apply host target world =
      (Op.writeFile path (Template.render vars.entries source)).apply host target world := by
  conv => lhs; rw [apply, h]
  rfl

theorem World.putsBelow_of_withTree {directory path : String} {bytes : ByteArray → ByteArray} {world after : World σ}
    {outcome : Except OpFault Unit × FileTree} (hput : world.tree.PutsBelow directory path bytes outcome)
    (h : (outcome.1, world.withTree outcome.2) = (.ok (), after)) :
    world.tree.PutsBelow directory path bytes (.ok (), after.tree) := by
  obtain ⟨hresult, rfl⟩ := Prod.mk.inj h
  rw [← hresult]
  exact hput

theorem Op.putsBelow_of_writeFile {path content target : String} {host : Host σ} {world after : World σ}
    (h : (Op.writeFile path content).apply host target world = (.ok (), after)) :
    world.tree.PutsBelow host.directory path (fun _ => content.toUTF8) (.ok (), after.tree) :=
  World.putsBelow_of_withTree (world.tree.putsBelow_writeBelow host.directory path content) h

theorem Op.putsBelow_of_appendFile {path content target : String} {host : Host σ} {world after : World σ}
    (h : (Op.appendFile path content).apply host target world = (.ok (), after)) :
    world.tree.PutsBelow host.directory path (· ++ content.toUTF8) (.ok (), after.tree) :=
  World.putsBelow_of_withTree (world.tree.putsBelow_appendBelow host.directory path content) h

/-- An operation that writes was applied: what it writes, or adds, was put below the working directory. -/
theorem Op.apply_cases {op : Op} {host : Host σ} {target : String} {world after : World σ}
    (h : op.apply host target world = (.ok (), after)) :
    (∃ command, op = .run command) ∨
    (∃ path content, op = .writeFile path content ∧
      world.tree.PutsBelow host.directory path (fun _ => content.toUTF8) (.ok (), after.tree)) ∨
    (∃ path content, op = .appendFile path content ∧
      world.tree.PutsBelow host.directory path (· ++ content.toUTF8) (.ok (), after.tree)) ∨
    (∃ path template vars source, op = .writeTemplate path template vars ∧
      host.registry.template world.tree target template = .ok source ∧
      world.tree.PutsBelow host.directory path (fun _ => (Template.render vars.entries source).toUTF8)
        (.ok (), after.tree)) := by
  cases op with
  | run command => exact .inl ⟨command, rfl⟩
  | writeFile path content => exact .inr (.inl ⟨path, content, rfl, putsBelow_of_writeFile h⟩)
  | appendFile path content => exact .inr (.inr (.inl ⟨path, content, rfl, putsBelow_of_appendFile h⟩))
  | writeTemplate path template vars =>
    cases hsource : host.registry.template world.tree target template with
    | error message =>
      rw [apply, hsource] at h
      cases h
    | ok source =>
      rw [apply_writeTemplate hsource] at h
      exact .inr (.inr (.inr ⟨path, template, vars, source, rfl, hsource, putsBelow_of_writeFile h⟩))

/-- An operation that writes to a path puts something below the working directory there. -/
theorem Op.exists_putsBelow_of_apply {op : Op} {host : Host σ} {target : String} {world after : World σ}
    (h : op.apply host target world = (.ok (), after)) {path : String} (hpath : op.target? = some path) :
    ∃ bytes, world.tree.PutsBelow host.directory path bytes (.ok (), after.tree) := by
  rcases apply_cases h with ⟨command, rfl⟩ | ⟨own, content, rfl, hput⟩ | ⟨own, content, rfl, hput⟩ |
    ⟨own, template, vars, source, rfl, -, hput⟩
  · cases hpath
  · cases hpath
    exact ⟨_, hput⟩
  · cases hpath
    exact ⟨_, hput⟩
  · cases hpath
    exact ⟨_, hput⟩

/-- An operation that writes refuses every path that is not contained. -/
theorem Op.isContained_of_apply {op : Op} {host : Host σ} {target : String} {world after : World σ}
    (h : op.apply host target world = (.ok (), after)) {path : String} (hpath : op.target? = some path) :
    Path.isContained path = true := by
  obtain ⟨bytes, hput⟩ := exists_putsBelow_of_apply h hpath
  exact hput.isContained

theorem Op.apply_run_snd (command target : String) (host : Host σ) (world : World σ) :
    ((Op.run command).apply host target world).2 = (host.command command world).2 := by
  rw [apply]
  generalize host.command command world = outcome
  obtain ⟨message | result, after⟩ := outcome
  · rfl
  · dsimp only
    split
    · rfl
    · split
      · rfl
      · rfl

theorem Check.evaluate_commandSucceeds_snd (command : String) (host : Host σ) (manifest : Manifest) (world : World σ) :
    ((Check.commandSucceeds command).evaluate host manifest world).2 = (host.command command world).2 := by
  rw [evaluate]
  generalize host.command command world = outcome
  obtain ⟨message | result, after⟩ := outcome
  · rfl
  · rfl

/-- An operation changes the tree within the working directory if the command that it may run does. -/
theorem Op.changesWithin_apply {op : Op} {host : Host σ} {world : World σ}
    (hdirectory : world.tree.isDirectory host.directory = true)
    (hcommand : ∀ command, op.command? = some command →
      world.tree.ChangesWithin host.directory (host.run command world.tree world.state).tree) (target : String) :
    world.tree.ChangesWithin host.directory (op.apply host target world).2.tree := by
  cases op with
  | run command =>
    rw [apply_run_snd]
    exact hcommand command rfl
  | writeFile path content =>
    have hput := world.tree.putsBelow_writeBelow host.directory path content
    exact (hput.confined hdirectory).changesWithin hdirectory
  | appendFile path content =>
    have hput := world.tree.putsBelow_appendBelow host.directory path content
    exact (hput.confined hdirectory).changesWithin hdirectory
  | writeTemplate path template vars =>
    rw [apply]
    cases host.registry.template world.tree target template with
    | error message => exact .refl hdirectory
    | ok source =>
      have hput := world.tree.putsBelow_writeBelow host.directory path (Template.render vars.entries source)
      exact (hput.confined hdirectory).changesWithin hdirectory

theorem Check.changesWithin_evaluate {check : Check} {host : Host σ} {world : World σ}
    (hdirectory : world.tree.isDirectory host.directory = true)
    (hcommand : ∀ command, check.command? = some command →
      world.tree.ChangesWithin host.directory (host.run command world.tree world.state).tree) (manifest : Manifest) :
    world.tree.ChangesWithin host.directory (check.evaluate host manifest world).2.tree := by
  cases hcheck : check.command? with
  | none =>
    rw [evaluate_snd hcheck]
    exact .refl hdirectory
  | some command =>
    cases check with
    | commandSucceeds own =>
      cases hcheck
      rw [evaluate_commandSucceeds_snd]
      exact hcommand command rfl
    | _ => cases hcheck

theorem Item.changesWithin_attempt {item : Item} {host : Host σ} {world : World σ}
    (hdirectory : world.tree.isDirectory host.directory = true)
    (hcommand : ∀ command, item.command? = some command →
      world.tree.ChangesWithin host.directory (host.run command world.tree world.state).tree)
    (target : String) (manifest : Manifest) :
    world.tree.ChangesWithin host.directory (item.attempt host target manifest world).2.tree := by
  cases item with
  | op action =>
    rw [attempt_op_snd]
    exact Op.changesWithin_apply hdirectory hcommand target
  | check proof =>
    rw [attempt_check_snd]
    exact Check.changesWithin_evaluate hdirectory hcommand manifest

/-! ### Runs -/

/-- An attempt stays in the working directory: it writes to a place there, changes nothing elsewhere unless it runs a command, and finds nothing in files that depends on what stands elsewhere. -/
structure Attempt.StaysBelow (attempt : Attempt σ) (host : Host σ) (manifest : Manifest) : Prop where
  written : ∀ path found, attempt.item.target? = some path → attempt.result = .ok found →
    attempt.before.tree.destination host.directory <+:
      attempt.before.tree.destination (Path.below host.directory path)
  changed : attempt.item.command? = none → attempt.before.tree.ChangesWithin host.directory attempt.after.tree
  inspected : ∀ check, attempt.item = .check check → check.readsFiles = true → ∀ other : World σ,
    attempt.before.tree.SameBelow host.directory other.tree →
      (check.evaluate host manifest other).1 = (check.evaluate host manifest attempt.before).1

theorem Item.apply_of_attempt {action : Op} {host : Host σ} {target : String} {manifest : Manifest}
    {world after : World σ} {found : Option Shortfall}
    (h : (Item.op action).attempt host target manifest world = (.ok found, after)) :
    action.apply host target world = (.ok (), after) := by
  rw [attempt] at h
  cases happly : action.apply host target world with
  | mk result written =>
    rw [happly] at h
    cases result with
    | error fault => cases h
    | ok done =>
      cases h
      rfl

theorem Item.isContained_of_attempt {item : Item} {host : Host σ} {target : String} {manifest : Manifest}
    {world after : World σ} {found : Option Shortfall}
    (h : item.attempt host target manifest world = (.ok found, after)) {path : String}
    (hpath : item.target? = some path) : Path.isContained path = true := by
  cases item with
  | check proof => cases hpath
  | op action => exact Op.isContained_of_apply (apply_of_attempt h) hpath

theorem Attempt.staysBelow {attempt : Attempt σ} {host : Host σ} {target : String} {manifest : Manifest}
    (h : (host.performer target manifest).attempt attempt.item attempt.before = (attempt.result, attempt.after))
    (hdirectory : attempt.before.tree.isDirectory host.directory = true) : attempt.StaysBelow host manifest where
  written path found hpath hresult := by
    rw [hresult, Host.performer_attempt] at h
    rw [FileTree.destination_below _ _ (Item.isContained_of_attempt h hpath)]
    exact List.prefix_append _ _
  changed hnone := by
    have hcommand : ∀ command, attempt.item.command? = some command → attempt.before.tree.ChangesWithin host.directory
        (host.run command attempt.before.tree attempt.before.state).tree := by
      intro command hsome
      rw [hnone] at hsome
      cases hsome
    have hchanges := Item.changesWithin_attempt hdirectory hcommand target manifest
    rw [← Host.performer_attempt, h] at hchanges
    exact hchanges
  inspected check _ hreads other hsame := (Check.evaluate_congr hreads hsame manifest).symm

/-- Where every attempt keeps the working directory and changes nothing outside of it, so does a chain of them. -/
theorem Performer.Chains.changesWithin {performer : Performer σ} {directory : String}
    (hattempts : ∀ item (before : World σ), before.tree.isDirectory directory = true →
      before.tree.ChangesWithin directory (performer.attempt item before).2.tree)
    {attempts : List (Attempt σ)} {world final : World σ} (h : performer.Chains world attempts final)
    (hdirectory : world.tree.isDirectory directory = true) :
    (∀ attempt ∈ attempts, attempt.before.tree.isDirectory directory = true) ∧
      world.tree.ChangesWithin directory final.tree := by
  induction attempts generalizing world with
  | nil =>
    obtain ⟨htree, -⟩ := h
    refine ⟨by simp, ?_⟩
    rw [htree]
    exact .refl hdirectory
  | cons attempt rest ih =>
    obtain ⟨⟨htree, -⟩, hresult, hrest⟩ := h
    have hbefore : attempt.before.tree.isDirectory directory = true := by rw [htree]; exact hdirectory
    have hchanges := hattempts attempt.item attempt.before hbefore
    rw [hresult, htree] at hchanges
    obtain ⟨hstand, hfinal⟩ := ih hrest hchanges.stands
    exact ⟨List.forall_mem_cons.2 ⟨hbefore, hstand⟩, hchanges.trans hfinal⟩

/-- A contained path leads into the directory it is relative to. Every item of a run stays in the working directory as long as it exists, and the run as a whole does if its commands do; an execution is such a run, or nothing at all. -/
theorem Plan.execute_confined {plan : Plan} {host : Host σ} {world : World σ}
    (hdirectory : world.tree.isDirectory host.directory = true) :
    (∀ (tree : FileTree) (directory path : String), Path.isContained path = true →
      tree.destination directory <+: tree.destination (Path.below directory path)) ∧
    ((∃ rejection, plan.execute host world = (.error (.rejected rejection), world)) ∨
      ∃ manifest, plan.execute host world = runSteps (host.performer plan.target manifest) plan.steps world) ∧
    ∀ manifest, ∃ attempts,
      (host.performer plan.target manifest).Chains world attempts
        (runSteps (host.performer plan.target manifest) plan.steps world).2 ∧
      attempts.map Attempt.place <+: sequence plan.steps ∧
      (∀ attempt ∈ attempts, attempt.before.tree.isDirectory host.directory = true →
        attempt.StaysBelow host manifest) ∧
      ((∀ command (tree : FileTree) state, tree.isDirectory host.directory = true →
          tree.ChangesWithin host.directory (host.run command tree state).tree) →
        (∀ attempt ∈ attempts, attempt.before.tree.isDirectory host.directory = true) ∧
          world.tree.ChangesWithin host.directory
            (runSteps (host.performer plan.target manifest) plan.steps world).2.tree) := by
  refine ⟨?_, ?_, fun manifest => ?_⟩
  · intro tree directory path hpath
    rw [FileTree.destination_below tree directory hpath]
    exact List.prefix_append _ _
  · rw [execute]
    cases plan.preflight (host.registry.manifests world.tree) with
    | error rejection => exact .inl ⟨rejection, rfl⟩
    | ok manifest => exact .inr ⟨manifest, rfl⟩
  · obtain ⟨course, hcourse⟩ := exists_inOrder_runSteps (host.performer plan.target manifest) plan.steps world
    have hchained := hcourse.covers.chained
    refine ⟨course.attempts, hchained, hcourse.tried, ?_, ?_⟩
    · intro attempt hattempt hbefore
      exact Attempt.staysBelow (hchained.attempt_eq hattempt) hbefore
    · intro hcommands
      refine hchained.changesWithin (fun item before hbefore => ?_) hdirectory
      exact Item.changesWithin_attempt hbefore (fun command _ => hcommands command _ _ hbefore) _ _

namespace Sample

def workTree : FileTree := ⟨[], .directory [("work", .empty)]⟩

def worker : Host Unit := { host with directory := "/work" }

end Sample

theorem Plan.execute_confined_sample :
    Sample.workTree.isDirectory Sample.worker.directory = true ∧
      ∃ manifest attempts, Sample.plan.preflight (Sample.worker.registry.manifests Sample.workTree) = .ok manifest ∧
        (Sample.worker.performer Sample.plan.target manifest).Chains ⟨Sample.workTree, (), []⟩ attempts
          (Sample.plan.execute Sample.worker ⟨Sample.workTree, (), []⟩).2 ∧
        (∀ attempt ∈ attempts, attempt.StaysBelow Sample.worker manifest) ∧
        Sample.workTree.ChangesWithin "/work" (Sample.plan.execute Sample.worker ⟨Sample.workTree, (), []⟩).2.tree := by
  have hdirectory : Sample.workTree.isDirectory Sample.worker.directory = true := by decide +kernel
  obtain ⟨manifest, hpreflight⟩ := Sample.exists_manifest
  have hexecute : Sample.plan.execute Sample.worker ⟨Sample.workTree, (), []⟩ =
      runSteps (Sample.worker.performer Sample.plan.target manifest) Sample.plan.steps ⟨Sample.workTree, (), []⟩ := by
    have hown : Sample.plan.preflight (Sample.worker.registry.manifests Sample.workTree) = .ok manifest := hpreflight
    rw [Plan.execute, hown]
  obtain ⟨-, -, hruns⟩ :=
    @Plan.execute_confined Unit Sample.plan Sample.worker ⟨Sample.workTree, (), []⟩ hdirectory
  obtain ⟨attempts, hchained, -, hstays, hwhole⟩ := hruns manifest
  obtain ⟨hstand, hchanges⟩ := hwhole fun _ _ _ htree => .refl htree
  rw [← hexecute] at hchained hchanges
  exact ⟨hdirectory, manifest, attempts, hpreflight, hchained,
    fun attempt hattempt => hstays attempt hattempt (hstand attempt hattempt), hchanges⟩

end GuardedPlan
