import GuardedPlan.Proofs.Execution.Confinement
import GuardedPlan.Proofs.FileTree.Content

/-!
# Executing a plan again

Without commands, what an execution does to files is a sequence of edits that its operations alone determine, together with the sources of the templates that they render. A second execution repeats the edits if the templates are still the same. It then changes a file exactly if the plan adds to that file and never replaces it, so the one thing that keeps plans from being idempotent is an addition on its own.
-/

namespace GuardedPlan

variable {σ : Type}

/-! ### The edits of a plan -/

/-- The operation that an item is, if it is one. -/
def Item.op? : Item → Option Op
  | op action => some action
  | check _ => none

theorem Item.op?_eq_some_iff {item : Item} {op : Op} : item.op? = some op ↔ item = .op op := by
  cases item <;> simp [op?]

/-- The operations of a plan in the order of a run. -/
def Plan.ops (plan : Plan) : List Op :=
  plan.steps.flatMap Step.ops

/-- The path of the file that an operation replaces, if it replaces one. -/
def Op.replaced? : Op → Option String
  | writeFile path _ => some path
  | writeTemplate path _ _ => some path
  | _ => none

/-- The source of the template that an operation renders, if it renders one. -/
def Op.source? (op : Op) (host : Host σ) (target : String) (tree : FileTree) : Option (Except String String) :=
  match op with
  | .writeTemplate _ template _ => some (host.registry.template tree target template)
  | _ => none

/-- The edit that an operation makes below a location, if it makes one. -/
def Op.edit? (op : Op) (host : Host σ) (target : String) (base : Location) (tree : FileTree) : Option Edit :=
  match op with
  | .run _ => none
  | .writeFile path content => some ⟨base ++ Path.names [path], true, content.toUTF8⟩
  | .appendFile path content => some ⟨base ++ Path.names [path], false, content.toUTF8⟩
  | .writeTemplate path template vars =>
    (host.registry.template tree target template).toOption.map fun source =>
      ⟨base ++ Path.names [path], true, (Template.render vars.entries source).toUTF8⟩

namespace Host

/-- The sources of the templates that operations render, each as it is when its operation is applied. -/
def sources (host : Host σ) (target : String) : List Op → World σ → List (Except String String)
  | [], _ => []
  | op :: rest, world =>
    (op.source? host target world.tree).toList ++ sources host target rest (op.apply host target world).2

/-- The edits that operations make below a location, one after the other. -/
def edits (host : Host σ) (target : String) (base : Location) : List Op → World σ → List Edit
  | [], _ => []
  | op :: rest, world =>
    (op.edit? host target base world.tree).toList ++ edits host target base rest (op.apply host target world).2

end Host

/-- The sources of the templates that an execution of a plan renders. -/
def Plan.sources (plan : Plan) (host : Host σ) (world : World σ) : List (Except String String) :=
  host.sources plan.target plan.ops world

section

variable {host : Host σ} {target : String} {base : Location}

theorem Op.edit_cases {op : Op} {tree : FileTree} {edit : Edit} (h : op.edit? host target base tree = some edit) :
    (edit.replaces = true ∧ ∃ path, op.replaced? = some path ∧ edit.place = base ++ Path.names [path]) ∨
      ∃ path content, op = .appendFile path content ∧ edit = ⟨base ++ Path.names [path], false, content.toUTF8⟩ := by
  cases op with
  | run command => cases h
  | writeFile path content =>
    cases h
    exact .inl ⟨rfl, path, rfl, rfl⟩
  | appendFile path content =>
    cases h
    exact .inr ⟨path, content, rfl, rfl⟩
  | writeTemplate path template vars =>
    obtain ⟨source, -, rfl⟩ := Option.map_eq_some_iff.1 h
    exact .inl ⟨rfl, path, rfl, rfl⟩

theorem Host.exists_of_mem_edits {ops : List Op} {world : World σ} {edit : Edit}
    (h : edit ∈ host.edits target base ops world) : ∃ op ∈ ops, ∃ tree, op.edit? host target base tree = some edit := by
  induction ops generalizing world with
  | nil => cases h
  | cons op rest ih =>
    rcases List.mem_append.1 h with hown | hrest
    · exact ⟨op, List.mem_cons_self, world.tree, Option.mem_toList.1 hown⟩
    · obtain ⟨other, hmem, hother⟩ := ih hrest
      exact ⟨other, List.mem_cons_of_mem _ hmem, hother⟩

/-- The same templates make the same edits. -/
theorem Host.edits_congr {ops : List Op} {first second : World σ}
    (h : host.sources target ops first = host.sources target ops second) :
    host.edits target base ops first = host.edits target base ops second := by
  induction ops generalizing first second with
  | nil => rfl
  | cons op rest ih =>
    rw [edits, edits]
    cases op with
    | writeTemplate path template vars =>
      obtain ⟨hsource, hrest⟩ := List.cons.inj h
      rw [ih hrest, Op.edit?, Op.edit?, hsource]
    | _ => exact congrArg _ (ih h)

/-- Templates that do not change with the files are the same in all executions. -/
theorem Host.sources_eq (hfixed : ∀ tree other, host.registry.template tree = host.registry.template other)
    (ops : List Op) (first second : World σ) : host.sources target ops first = host.sources target ops second := by
  induction ops generalizing first second with
  | nil => rfl
  | cons op rest ih =>
    rw [sources, sources, ih (op.apply host target first).2 (op.apply host target second).2]
    cases op with
    | writeTemplate path template vars => rw [Op.source?, Op.source?, hfixed first.tree second.tree]
    | _ => rfl

theorem Op.tree_apply_congr {op : Op} (hcommand : op.command? = none) {first second : World σ}
    (htree : first.tree = second.tree) :
    (op.apply host target first).2.tree = (op.apply host target second).2.tree := by
  obtain ⟨tree, state, log⟩ := first
  obtain ⟨other, otherState, otherLog⟩ := second
  cases htree
  cases op with
  | run command => cases hcommand
  | writeFile path content => rfl
  | appendFile path content => rfl
  | writeTemplate path template vars =>
    rw [apply, apply]
    cases host.registry.template tree target template with
    | error message => rfl
    | ok source => rfl

theorem Host.edits_of_tree_eq {ops : List Op} (hcommands : ∀ op ∈ ops, op.command? = none) {first second : World σ}
    (htree : first.tree = second.tree) :
    host.edits target base ops first = host.edits target base ops second := by
  induction ops generalizing first second with
  | nil => rfl
  | cons op rest ih =>
    obtain ⟨hop, hrest⟩ := List.forall_mem_cons.1 hcommands
    rw [edits, edits, htree, ih hrest (Op.tree_apply_congr hop htree)]

end

/-! ### Executions edit files -/

/-- Between two worlds every operation made an edit, and files changed by these edits alone. -/
structure World.Edited (before : World σ) (host : Host σ) (target : String) (ops : List Op) (after : World σ) :
    Prop where
  current : after.tree.current = before.tree.current
  content : ∀ place, after.tree.content? place =
    Edit.through (host.edits target (before.tree.destination host.directory) ops before) place
      (before.tree.content? place)
  each : ∀ op ∈ ops, ∃ edit ∈ host.edits target (before.tree.destination host.directory) ops before, ∃ tree,
    op.edit? host target (before.tree.destination host.directory) tree = some edit

/-- An operation that succeeds and runs no command makes its edit. -/
theorem Op.exists_edit_of_apply {op : Op} {host : Host σ} {target : String} {world after : World σ}
    (hcommand : op.command? = none) (h : op.apply host target world = (.ok (), after)) :
    after.tree.current = world.tree.current ∧
      ∃ edit, op.edit? host target (world.tree.destination host.directory) world.tree = some edit ∧
        ∀ place, after.tree.content? place = edit.after place (world.tree.content? place) := by
  rcases apply_cases h with ⟨command, rfl⟩ | ⟨path, content, rfl, hput⟩ | ⟨path, content, rfl, hput⟩ |
    ⟨path, template, vars, source, rfl, hsource, hput⟩
  · cases hcommand
  · exact ⟨hput.changesOnly.current, _, rfl, hput.content_eq⟩
  · exact ⟨hput.changesOnly.current, _, rfl, hput.content_eq⟩
  · have hedit : (Op.writeTemplate path template vars).edit? host target (world.tree.destination host.directory)
        world.tree = some ⟨world.tree.destination host.directory ++ Path.names [path], true,
          (Template.render vars.entries source).toUTF8⟩ := by
      rw [edit?, hsource]
      rfl
    exact ⟨hput.changesOnly.current, _, hedit, hput.content_eq⟩

namespace World.Edited

variable {host : Host σ} {target : String} {op : Op} {ops : List Op} {world middle final : World σ}

theorem nil (htree : final.tree = world.tree) : world.Edited host target [] final := by
  refine ⟨by rw [htree], fun place => ?_, by simp⟩
  rw [htree]
  rfl

/-- The operations see nothing of a world but its files. -/
theorem congr (h : middle.Edited host target ops final) (htree : world.tree = middle.tree)
    (hcommands : ∀ op ∈ ops, op.command? = none) : world.Edited host target ops final := by
  obtain ⟨hcurrent, hcontent, heach⟩ := h
  rw [← Host.edits_of_tree_eq hcommands htree, ← htree] at hcontent heach
  exact ⟨hcurrent.trans (by rw [htree]), hcontent, heach⟩

theorem cons (hcommand : op.command? = none) (happly : op.apply host target world = (.ok (), middle))
    (hlater : middle.Edited host target ops final) : world.Edited host target (op :: ops) final := by
  obtain ⟨hcurrent, edit, hedit, hcontent⟩ := Op.exists_edit_of_apply hcommand happly
  have hbase := FileTree.destination_congr hcurrent host.directory
  have hedits : host.edits target (world.tree.destination host.directory) (op :: ops) world =
      edit :: host.edits target (middle.tree.destination host.directory) ops middle := by
    rw [Host.edits, hedit, happly, hbase]
    rfl
  refine ⟨hlater.current.trans hcurrent, fun place => ?_, ?_⟩
  · rw [hedits, Edit.through_cons, ← hcontent, hlater.content]
  · rw [hedits, List.forall_mem_cons]
    refine ⟨⟨edit, List.mem_cons_self, world.tree, hedit⟩, fun other hother => ?_⟩
    obtain ⟨own, hmem, tree, hown⟩ := hlater.each other hother
    rw [hbase] at hown
    exact ⟨own, List.mem_cons_of_mem _ hmem, tree, hown⟩

end World.Edited

theorem Performer.Chains.edited {host : Host σ} {target : String} {manifest : Manifest} {attempts : List (Attempt σ)}
    {world final : World σ} (h : (host.performer target manifest).Chains world attempts final)
    (hresults : ∀ attempt ∈ attempts, ∃ shortfall, attempt.result = .ok shortfall)
    (hcommands : ∀ attempt ∈ attempts, attempt.item.command? = none) :
    world.Edited host target (attempts.filterMap fun attempt => attempt.item.op?) final := by
  induction attempts generalizing world with
  | nil => exact .nil h.1
  | cons attempt rest ih =>
    obtain ⟨⟨htree, -⟩, hattempt, hrest⟩ := h
    obtain ⟨⟨shortfall, hresult⟩, hresults⟩ := List.forall_mem_cons.1 hresults
    have hops : ∀ op ∈ (attempt :: rest).filterMap fun attempt => attempt.item.op?, op.command? = none := by
      intro op hop
      obtain ⟨own, hmem, hown⟩ := List.mem_filterMap.1 hop
      have hitem : own.item = .op op := Item.op?_eq_some_iff.1 hown
      have hnone := hcommands own hmem
      rw [hitem] at hnone
      exact hnone
    obtain ⟨hcommand, hcommands⟩ := List.forall_mem_cons.1 hcommands
    have hlater := ih hrest hresults hcommands
    refine World.Edited.congr ?_ htree.symm hops
    obtain ⟨step, item, before, result, after⟩ := attempt
    dsimp only at hresult hcommand hlater
    subst hresult
    rw [Host.performer_attempt] at hattempt
    cases item with
    | op action => exact .cons hcommand (Item.apply_of_attempt hattempt) hlater
    | check proof =>
      have hsame := Item.attempt_check_snd proof host target manifest before
      rw [hattempt, Check.evaluate_snd hcommand] at hsame
      exact hlater.congr (congrArg World.tree hsame).symm hops

theorem filterMap_op?_sequence (steps : List Step) :
    (sequence steps).filterMap (fun place => place.2.op?) = steps.flatMap Step.ops := by
  induction steps with
  | nil => rfl
  | cons step rest ih =>
    have hops : (step.ops.map Item.op).filterMap Item.op? = step.ops := by
      rw [List.filterMap_map]
      exact List.filterMap_some
    have hchecks : (step.checks.map Item.check).filterMap Item.op? = [] := by
      rw [List.filterMap_map]
      exact List.filterMap_eq_nil_iff.2 fun _ _ => rfl
    have hitems : (step.items.map (step.id, ·)).filterMap (fun place => place.2.op?) = step.ops := by
      rw [List.filterMap_map]
      change step.items.filterMap Item.op? = step.ops
      rw [Step.items, List.filterMap_append, hops, hchecks, List.append_nil]
    have hsequence : sequence (step :: rest) = step.items.map (step.id, ·) ++ sequence rest := List.flatMap_cons
    rw [hsequence, List.filterMap_append, hitems, ih, List.flatMap_cons]

theorem edited_of_runSteps {host : Host σ} {target : String} {manifest : Manifest} {steps : List Step}
    {world final : World σ} {count : Nat} (hcommands : ∀ step ∈ steps, step.commands = [])
    (h : runSteps (host.performer target manifest) steps world = (.ok count, final)) :
    world.Edited host target (steps.flatMap Step.ops) final := by
  obtain ⟨course, hcourse⟩ := exists_inOrder_runSteps (host.performer target manifest) steps world
  rw [h] at hcourse
  have hwhole := hcourse.whole.1 ⟨count, rfl⟩
  have hattempts : course.attempts = course.completed := by
    have hends := hcourse.ends
    cases hends with
    | completed hfailed hbegun hdone => rw [Course.attempts, hfailed, Option.toList_none, List.append_nil]
  have hnone : ∀ attempt ∈ course.completed, attempt.item.command? = none := by
    intro attempt hattempt
    have hplace : attempt.place ∈ sequence steps := by
      rw [← hwhole]
      exact List.mem_map_of_mem hattempt
    obtain ⟨step, hstep, hitem⟩ := exists_item_of_mem_sequence hplace
    cases hcommand : attempt.item.command? with
    | none => rfl
    | some command =>
      have hmem := Step.mem_commands_iff.2 ⟨attempt.item, hitem, hcommand⟩
      rw [hcommands step hstep] at hmem
      cases hmem
  have hchained := hcourse.covers.chained
  rw [hattempts] at hchained
  have hedited := hchained.edited hcourse.covers.succeeded hnone
  have hops : (course.completed.filterMap fun attempt => attempt.item.op?) = steps.flatMap Step.ops := by
    rw [← filterMap_op?_sequence, ← hwhole, List.filterMap_map]
    rfl
  rw [hops] at hedited
  exact hedited

/-- An execution that succeeds and runs no command makes the edits of its plan. -/
theorem Plan.edited_of_execute {plan : Plan} {host : Host σ} {world final : World σ} {count : Nat}
    (hcommands : ∀ step ∈ plan.steps, step.commands = []) (h : plan.execute host world = (.ok count, final)) :
    world.Edited host plan.target plan.ops final := by
  rw [execute] at h
  cases hpreflight : plan.preflight (host.registry.manifests world.tree) with
  | error rejection =>
    rw [hpreflight] at h
    cases h
  | ok manifest =>
    rw [hpreflight] at h
    exact edited_of_runSteps hcommands h

/-! ### Executing again -/

/-- A place is replaced by the edits of a plan exactly if an operation of the plan replaces the file that a path names there. -/
theorem World.Edited.replaced_iff {host : Host σ} {target : String} {ops : List Op} {world final : World σ}
    (h : world.Edited host target ops final) {place : Location} :
    (∃ edit ∈ host.edits target (world.tree.destination host.directory) ops world,
        edit.place = place ∧ edit.replaces = true) ↔
      ∃ op ∈ ops, ∃ path, op.replaced? = some path ∧
        place = world.tree.destination host.directory ++ Path.names [path] := by
  constructor
  · rintro ⟨edit, hmem, hplace, hreplaces⟩
    obtain ⟨op, hop, tree, hedit⟩ := Host.exists_of_mem_edits hmem
    rcases Op.edit_cases hedit with ⟨-, path, hpath, hown⟩ | ⟨path, content, -, rfl⟩
    · exact ⟨op, hop, path, hpath, hplace.symm.trans hown⟩
    · cases hreplaces
  · rintro ⟨op, hop, path, hpath, hplace⟩
    obtain ⟨edit, hmem, tree, hedit⟩ := h.each op hop
    rcases Op.edit_cases hedit with ⟨hreplaces, own, hown, hsame⟩ | ⟨own, content, rfl, -⟩
    · rw [hpath] at hown
      cases hown
      exact ⟨edit, hmem, hsame.trans hplace.symm, hreplaces⟩
    · cases hpath

/-- A second execution without commands, with the templates that the first one rendered, leaves all files as the first one left them exactly if the plan replaces every file to which it adds something. -/
theorem Plan.execute_again_iff {plan : Plan} {host : Host σ} {world first again second : World σ} {count recount : Nat}
    (hcommands : ∀ step ∈ plan.steps, step.commands = [])
    (hfirst : plan.execute host world = (.ok count, first)) (htree : again.tree = first.tree)
    (hsecond : plan.execute host again = (.ok recount, second))
    (hsources : plan.sources host again = plan.sources host world) :
    (∀ place, second.tree.content? place = first.tree.content? place) ↔
      ∀ path content, .appendFile path content ∈ plan.ops → content ≠ "" →
        ∃ op ∈ plan.ops, ∃ other, op.replaced? = some other ∧ Path.names [other] = Path.names [path] := by
  have honce := edited_of_execute hcommands hfirst
  have htwice := edited_of_execute hcommands hsecond
  have hbase : again.tree.destination host.directory = world.tree.destination host.directory := by
    rw [htree, FileTree.destination_congr honce.current]
  have hagain : ∀ place, second.tree.content? place = first.tree.content? place ↔
      (∃ op ∈ plan.ops, ∃ path, op.replaced? = some path ∧
        place = world.tree.destination host.directory ++ Path.names [path]) ∨
      ∀ edit ∈ host.edits plan.target (world.tree.destination host.directory) plan.ops world,
        edit.place = place → edit.bytes.size = 0 := by
    intro place
    rw [htwice.content, hbase, Host.edits_congr hsources, htree, honce.content, Edit.through_again_iff,
      honce.replaced_iff]
  simp only [hagain]
  constructor
  · intro hplaces path content hop hsome
    obtain ⟨edit, hmem, tree, hedit⟩ := honce.each _ hop
    cases hedit
    rcases hplaces _ with ⟨op, hown, other, hother, hplace⟩ | hnothing
    · exact ⟨op, hown, other, hother, (List.append_cancel_left hplace).symm⟩
    · exact absurd (hnothing _ hmem rfl) (by simpa using hsome)
  · intro hreplaced place
    by_cases hplace : ∃ op ∈ plan.ops, ∃ path, op.replaced? = some path ∧
        place = world.tree.destination host.directory ++ Path.names [path]
    · exact .inl hplace
    · refine .inr fun edit hmem hsame => ?_
      obtain ⟨op, hop, tree, hedit⟩ := Host.exists_of_mem_edits hmem
      rcases Op.edit_cases hedit with ⟨-, path, hpath, hown⟩ | ⟨path, content, rfl, rfl⟩
      · exact absurd ⟨op, hop, path, hpath, hsame.symm.trans hown⟩ hplace
      · by_cases hempty : content = ""
        · rw [hempty]
          rfl
        · obtain ⟨other, hother, own, hown, hnames⟩ := hreplaced path content hop hempty
          rw [← hnames] at hsame
          exact absurd ⟨other, hother, own, hown, hsame.symm⟩ hplace

namespace Sample

/-- A plan for the manifest of the samples with a single step. -/
def planOf (ops : List Op) : Plan where
  lang := Plan.language
  target := "t"
  presetVersion := "1"
  specHash := ""
  steps := [{ id := "s", ops := ops }]

/-- A plan that adds to a file and does nothing else. -/
def growing : Plan := planOf [.appendFile "a/b" "x"]

/-- A plan that replaces a template after it was rendered. -/
def shifting : Plan := planOf [.writeTemplate "a/b" "a/c" .empty, .writeFile "a/c" "y"]

/-- A plan that renders a template and then adds to the same file. -/
def settled : Plan := planOf [.writeTemplate "a/b" "a/c" .empty, .appendFile "./a/b" "y"]

/-- A host whose templates are files of the working directory. -/
def readingHost : Host Unit where
  directory := "."
  registry := ⟨fun _ => lookup, fun tree _ path => (tree.readText path).mapError FileFault.message⟩
  run _ tree state := { result := .ok ⟨some 0, false⟩, tree, state }

/-- A host whose templates are all the same text. -/
def fixedHost : Host Unit :=
  { readingHost with registry := ⟨fun _ => lookup, fun _ _ _ => .ok "x"⟩ }

def templateWorld : World Unit :=
  ⟨⟨[], .directory [("a", .directory [("c", .file "x".toUTF8 false)])]⟩, (), []⟩

/-- Executes a plan, and once more from the files that this leaves. -/
def twice (plan : Plan) (host : Host Unit) (world : World Unit) :
    (Except Failure Nat × World Unit) × (Except Failure Nat × World Unit) :=
  let first := plan.execute host world
  (first, plan.execute host ⟨first.2.tree, (), []⟩)

/-- What two executions come to, and what a file holds after each. -/
def account (runs : (Except Failure Nat × World Unit) × (Except Failure Nat × World Unit)) (place : Location) :
    List (Option Nat × Option ByteArray) :=
  [runs.1, runs.2].map fun run => (run.1.toOption, run.2.tree.content? place)

theorem exists_of_account {plan : Plan} {host : Host Unit} {world : World Unit} {place : Location} {count recount : Nat}
    {content changed : Option ByteArray}
    (h : account (twice plan host world) place = [(some count, content), (some recount, changed)]) :
    ∃ first second, plan.execute host world = (.ok count, first) ∧
      plan.execute host ⟨first.tree, (), []⟩ = (.ok recount, second) ∧
      first.tree.content? place = content ∧ second.tree.content? place = changed := by
  obtain ⟨hfirst, hrest⟩ := List.cons.inj h
  obtain ⟨hcount, hcontent⟩ := Prod.mk.inj hfirst
  obtain ⟨hrecount, hchanged⟩ := Prod.mk.inj (List.cons.inj hrest).1
  have hok := Except.toOption_eq_some_iff.1 hcount
  have hagain := Except.toOption_eq_some_iff.1 hrecount
  exact ⟨_, _, Prod.ext hok rfl, Prod.ext hagain rfl, hcontent, hchanged⟩

theorem account_twice :
    account (twice growing readingHost ⟨.empty, (), []⟩) ["a", "b"] =
        [(some 1, some "x".toUTF8), (some 1, some "xx".toUTF8)] ∧
      account (twice shifting readingHost templateWorld) ["a", "b"] =
        [(some 1, some "x".toUTF8), (some 1, some "y".toUTF8)] ∧
      account (twice settled fixedHost ⟨.empty, (), []⟩) ["a", "b"] =
        [(some 1, some "xy".toUTF8), (some 1, some "xy".toUTF8)] := by
  decide +kernel

end Sample

/-- An addition on its own grows with every execution, and a template that the plan replaces is rendered differently the next time. -/
theorem Plan.execute_again_changes :
    (∃ first second, Sample.growing.execute Sample.readingHost ⟨.empty, (), []⟩ = (.ok 1, first) ∧
      Sample.growing.execute Sample.readingHost ⟨first.tree, (), []⟩ = (.ok 1, second) ∧
      (∀ step ∈ Sample.growing.steps, step.commands = [] ∧ step.checks = []) ∧
      second.tree.content? ["a", "b"] ≠ first.tree.content? ["a", "b"]) ∧
    ∃ first second, Sample.shifting.execute Sample.readingHost Sample.templateWorld = (.ok 1, first) ∧
      Sample.shifting.execute Sample.readingHost ⟨first.tree, (), []⟩ = (.ok 1, second) ∧
      (∀ step ∈ Sample.shifting.steps, step.commands = [] ∧ step.checks = []) ∧
      second.tree.content? ["a", "b"] ≠ first.tree.content? ["a", "b"] := by
  obtain ⟨hgrowing, hshifting, -⟩ := Sample.account_twice
  constructor
  · obtain ⟨first, second, hfirst, hsecond, hcontent, hchanged⟩ := Sample.exists_of_account hgrowing
    refine ⟨first, second, hfirst, hsecond, by decide, ?_⟩
    rw [hcontent, hchanged]
    decide
  · obtain ⟨first, second, hfirst, hsecond, hcontent, hchanged⟩ := Sample.exists_of_account hshifting
    refine ⟨first, second, hfirst, hsecond, by decide, ?_⟩
    rw [hcontent, hchanged]
    decide

theorem Plan.execute_again_iff_settled :
    ∃ first second, Sample.settled.execute Sample.fixedHost ⟨.empty, (), []⟩ = (.ok 1, first) ∧
      Sample.settled.execute Sample.fixedHost ⟨first.tree, (), []⟩ = (.ok 1, second) ∧
      Sample.settled.sources Sample.fixedHost ⟨first.tree, (), []⟩ =
        Sample.settled.sources Sample.fixedHost ⟨.empty, (), []⟩ ∧
      first.tree.content? ["a", "b"] = some "xy".toUTF8 ∧
      ∀ place, second.tree.content? place = first.tree.content? place := by
  obtain ⟨-, -, hsettled⟩ := Sample.account_twice
  obtain ⟨first, second, hfirst, hsecond, hcontent, -⟩ := Sample.exists_of_account hsettled
  have hsources : Sample.settled.sources Sample.fixedHost ⟨first.tree, (), []⟩ =
      Sample.settled.sources Sample.fixedHost ⟨.empty, (), []⟩ := Host.sources_eq (fun _ _ => rfl) _ _ _
  have hagain := @execute_again_iff Unit Sample.settled Sample.fixedHost ⟨.empty, (), []⟩ first ⟨first.tree, (), []⟩
    second 1 1 (by decide) hfirst rfl hsecond hsources
  refine ⟨first, second, hfirst, hsecond, hsources, hcontent, hagain.2 fun path content hop _ => ?_⟩
  obtain ⟨hpath, -⟩ : path = "./a/b" ∧ content = "y" := by
    simpa [Plan.ops, Sample.settled, Sample.planOf] using hop
  exact ⟨.writeTemplate "a/b" "a/c" .empty, by decide, "a/b", rfl, by rw [hpath]; decide⟩

end GuardedPlan
