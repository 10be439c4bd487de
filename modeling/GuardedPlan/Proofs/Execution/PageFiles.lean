import GuardedPlan.Proofs.Execution.RouteTable
import GuardedPlan.Proofs.FileTree.Standing

/-!
# Routes as pages

Where every route is a page file, a macro is called once for each route and is given the path of its page. The path reaches an operation as it is, and the check of the route looks for the file at the same path. Operations that write take nothing away, so once all of them were applied every page is there, however the paths of the pages overlap.
-/

namespace GuardedPlan

variable {σ : Type}

/-! ### Files that were written -/

namespace Op

variable {op : Op} {host : Host σ} {target : String} {world after : World σ}

theorem keeps_of_apply (h : op.apply host target world = (.ok (), after)) (hcommand : op.command? = none) :
    world.tree.Keeps after.tree := by
  have hwrites : ∃ path, op.target? = some path := by
    cases op with
    | run command => cases hcommand
    | _ => exact ⟨_, rfl⟩
  obtain ⟨path, hpath⟩ := hwrites
  obtain ⟨bytes, hput⟩ := exists_putsBelow_of_apply h hpath
  exact hput.keeps

/-- Without commands, what operations write to is there once all of them were applied. -/
theorem existsBelow_of_performAll {ops : List Op} {manifest : Manifest} {step : String}
    (hcommands : ∀ op ∈ ops, op.command? = none)
    (h : performAll (host.performer target manifest) step (ops.map .op) world = (.ok (), after)) (hop : op ∈ ops)
    {path : String} (hpath : op.target? = some path) : after.tree.existsBelow host.directory path = .ok true := by
  refine holds_of_performAll (P := fun tree => tree.existsBelow host.directory path = .ok true) ?_ h ?_
  · intro own hown before middle happly hexists
    exact (keeps_of_apply happly (hcommands own hown)).existsBelow hexists
  · refine .inr ⟨op, hop, fun before middle happly => ?_⟩
    obtain ⟨bytes, hput⟩ := exists_putsBelow_of_apply happly hpath
    exact hput.existsBelow

end Op

/-! ### The step that writes the pages -/

/-- The path that an action of a macro body writes to, if it writes, with its placeholders. -/
def MacroAction.path? : MacroAction → Option String
  | run _ => none
  | writeFile path _ => some path
  | appendFile path _ => some path
  | writeTemplate path _ _ => some path

theorem Macro.target?_instantiate (args : List (String × String)) (action : MacroAction) :
    (instantiate args action).target? = action.path?.map (fill args) := by
  cases action <;> rfl

namespace Standard

/-- A spec with routes and without steps, for a manifest that makes every route a page file: a macro that runs no commands writes to the path that it is given. -/
structure Paged (spec : Spec) (manifest : Manifest) (pagesDirectory pageFile : String) : Prop where
  stepless : spec.steps = none
  routed : spec.routes ≠ []
  routing : manifest.semantics.routing = some (.fileBased pagesDirectory pageFile)
  page : ∃ definition, manifest.macros.get? "routing.page" = some definition ∧
    (definition.args.get? "file" = some .path ∨ definition.args.get? "file" = some .text) ∧
    (∀ command, .run command ∉ definition.expandsTo) ∧
    ∃ action ∈ definition.expandsTo, action.path? = some (Macro.placeholder "file")

variable {spec : Spec} {manifest : Manifest} {pagesDirectory pageFile : String} {definition : MacroDefinition}

/-- The arguments of the macro that writes the page of a route. -/
def pageArgs (spec : Spec) (pagesDirectory pageFile route : String) : Table Json :=
  .ofList [("dir", .string spec.appDirectory), ("route", .string route),
    ("file", .string (Routing.pagePath pagesDirectory pageFile spec.appDirectory route))]

/-- The argument with the path of the page is that path, whatever is in it. -/
theorem lookup_pageArgs (spec : Spec) (pagesDirectory pageFile route : String)
    (hfile : definition.args.get? "file" = some .path ∨ definition.args.get? "file" = some .text) :
    (Macro.bind definition.args (pageArgs spec pagesDirectory pageFile route)).lookup "file" =
      some (Routing.pagePath pagesDirectory pageFile spec.appDirectory route) := by
  have hvalue : (pageArgs spec pagesDirectory pageFile route).get? "file" =
      some (.string (Routing.pagePath pagesDirectory pageFile spec.appDirectory route)) := by
    simp [pageArgs, Table.ofList, Table.get_insert]
  rw [Macro.lookup_bind, hvalue]
  rcases hfile with htype | htype
  · rw [htype]
    rfl
  · rw [htype]
    rfl

/-- Every call of the macro writes to the page of its route. -/
theorem page_mem_targets {action : MacroAction} (route : String)
    (hfile : definition.args.get? "file" = some .path ∨ definition.args.get? "file" = some .text)
    (haction : action ∈ definition.expandsTo) (hpath : action.path? = some (Macro.placeholder "file")) :
    Routing.pagePath pagesDirectory pageFile spec.appDirectory route ∈
      (definition.expandsTo.map (Macro.instantiate (Macro.bind definition.args
        (pageArgs spec pagesDirectory pageFile route)))).filterMap Op.target? := by
  refine List.mem_filterMap.2 ⟨_, List.mem_map_of_mem haction, ?_⟩
  rw [Macro.target?_instantiate, hpath, Option.map_some,
    Macro.fill_placeholder isName_table.2 (lookup_pageArgs spec pagesDirectory pageFile route hfile)]

/-- What holds of the one step with the id of the routes: it checks every route, runs no command and writes the pages in the order of the routes. -/
theorem Paged.routes_step (h : Paged spec manifest pagesDirectory pageFile) :
    (∃ step ∈ (spec.draft manifest).steps, step.id = "routes") ∧
      ∀ step ∈ (spec.draft manifest).steps, step.id = "routes" →
        step.checks = spec.routes.map (.routeExists spec.appDirectory) ∧
        (∀ op ∈ step.ops, op.command? = none) ∧
        (spec.routes.map (Routing.pagePath pagesDirectory pageFile spec.appDirectory)).Sublist
          (step.ops.filterMap Op.target?) := by
  obtain ⟨definition, hdefinition, hfile, hcommands, action, haction, hpath⟩ := h.page
  obtain ⟨hexists, hmade⟩ := spec.routes_step_of_macro h.stepless h.routed h.routing hdefinition
  refine ⟨hexists, fun step hstep hid => ?_⟩
  obtain ⟨hchecks, hops⟩ := hmade step hstep hid
  have hcalls : routeCalls spec (.fileBased pagesDirectory pageFile) =
      spec.routes.map (pageArgs spec pagesDirectory pageFile) := rfl
  rw [hcalls, List.flatMap_map] at hops
  refine ⟨hchecks, fun op hop => ?_, ?_⟩
  · rw [hops] at hop
    obtain ⟨route, -, hcall⟩ := List.mem_flatMap.1 hop
    obtain ⟨own, hown, rfl⟩ := List.mem_map.1 hcall
    cases own with
    | run command => exact absurd hown (hcommands command)
    | _ => rfl
  · rw [hops]
    induction spec.routes with
    | nil => exact List.Sublist.slnil
    | cons route rest ih =>
      rw [List.map_cons, List.flatMap_cons, List.filterMap_append, ← List.singleton_append]
      exact (List.singleton_sublist.2 (page_mem_targets route hfile haction hpath)).append ih

end Standard

theorem Routing.evaluate_routeExists_page {manifest : Manifest} {pagesDirectory pageFile : String}
    (hrouting : manifest.semantics.routing = some (.fileBased pagesDirectory pageFile)) (host : Host σ)
    (world : World σ) (directory route : String) :
    ((Check.routeExists directory route).evaluate host manifest world).1 =
      (world.tree.existsBelow host.directory (pagePath pagesDirectory pageFile directory route)).map fun isThere =>
        .require isThere (.missingPage (pagePath pagesDirectory pageFile directory route) route) := by
  rw [Check.evaluate, hrouting]
  rfl

/-- In a plan for page files there is a step that checks every route. It writes, in the order of the routes, to the very paths at which its checks look for the pages, so every check passes once its operations were applied. -/
theorem pages_exist_of_performAll {spec : Spec} {manifest : Manifest} {pagesDirectory pageFile : String}
    (h : Standard.Paged spec manifest pagesDirectory pageFile) :
    (∃ step ∈ (spec.draft manifest).steps, step.id = "routes") ∧
    ∀ step ∈ (spec.draft manifest).steps, step.id = "routes" →
      step.checks = spec.routes.map (.routeExists spec.appDirectory) ∧
      (spec.routes.map (Routing.pagePath pagesDirectory pageFile spec.appDirectory)).Sublist
        (step.ops.filterMap Op.target?) ∧
      ∀ (σ : Type) (host : Host σ),
        (∀ (world : World σ), ∀ route ∈ spec.routes,
          ((Check.routeExists spec.appDirectory route).evaluate host manifest world).1 =
            (world.tree.existsBelow host.directory
              (Routing.pagePath pagesDirectory pageFile spec.appDirectory route)).map fun isThere =>
                .require isThere
                  (.missingPage (Routing.pagePath pagesDirectory pageFile spec.appDirectory route) route)) ∧
        ∀ (target : String) (world after : World σ),
          performAll (host.performer target manifest) step.id (step.ops.map .op) world = (.ok (), after) →
          ∀ check ∈ step.checks, (check.evaluate host manifest after).1 = .ok .pass := by
  obtain ⟨hexists, hsteps⟩ := h.routes_step
  refine ⟨hexists, fun step hstep hid => ?_⟩
  obtain ⟨hchecks, hcommands, hpages⟩ := hsteps step hstep hid
  refine ⟨hchecks, hpages, fun σ host => ⟨fun world route _ => ?_, fun target world after hperform check hcheck => ?_⟩⟩
  · exact Routing.evaluate_routeExists_page h.routing host world _ route
  · rw [hchecks] at hcheck
    obtain ⟨route, hroute, rfl⟩ := List.mem_map.1 hcheck
    obtain ⟨op, hop, hpath⟩ := List.mem_filterMap.1 (hpages.subset (List.mem_map_of_mem hroute))
    rw [Routing.evaluate_routeExists_page h.routing, Op.existsBelow_of_performAll hcommands hperform hop hpath]
    rfl

namespace Sample

/-- A spec whose routes hold empty segments, dots and what looks like a placeholder; two of them have the same page. -/
def pagedSpec : Spec :=
  { routedSpec "/" with workspace := some "./web/", routes := ["/", "//./", "/$\x7bfile\x7d/./b"] }

/-- A macro that adds to a list of pages and writes the page. -/
def pageMacro : MacroDefinition where
  description := none
  args := .ofList [("dir", .path), ("file", .text), ("route", .text)]
  expandsTo := [.appendFile "$\x7bdir\x7d/pages" "$\x7broute\x7d\n", .writeFile (Macro.placeholder "file") "x"]

/-- A manifest with that macro. -/
def pageManifest : Manifest :=
  { tableManifest with
    macros := .ofList [("routing.page", pageMacro)]
    semantics := { routing := some (.fileBased "." "index.html") } }

theorem paged_pagedSpec : Standard.Paged pagedSpec pageManifest "." "index.html" where
  stepless := rfl
  routed := List.cons_ne_nil _ _
  routing := rfl
  page := by
    refine ⟨pageMacro, ?_, .inr ?_, ?_, .writeFile (Macro.placeholder "file") "x", ?_, rfl⟩
    · simp [pageManifest, Table.ofList, Table.get_insert]
    · simp [pageMacro, Table.ofList, Table.get_insert]
    · simp [pageMacro]
    · simp [pageMacro]

/-- In an empty directory the pages can be written. -/
theorem exists_page_run : ∀ step ∈ (pagedSpec.draft pageManifest).steps, step.id = "routes" →
    ∃ after, performAll (host.performer "t" pageManifest) step.id (step.ops.map .op) ⟨.empty, (), []⟩ = (.ok (), after) := by
  have hall : ((pagedSpec.draft pageManifest).steps.all fun step => step.id ≠ "routes" ||
      (performAll (host.performer "t" pageManifest) step.id (step.ops.map .op) ⟨.empty, (), []⟩).1.toBool) = true := by
    decide +kernel
  intro step hstep hid
  have hrun := List.all_eq_true.1 hall step hstep
  simp only [hid, ne_eq, not_true_eq_false, decide_false, Bool.false_or] at hrun
  rw [hid]
  cases hperform : performAll (host.performer "t" pageManifest) "routes" (step.ops.map .op) ⟨.empty, (), []⟩ with
  | mk outcome after =>
    rw [hperform] at hrun
    cases outcome with
    | error failure => cases hrun
    | ok done => exact ⟨after, rfl⟩

/-- There the pages of three routes stand at two places, and every check finds its own. -/
theorem pages_exist_of_performAll_sample :
    Standard.Paged pagedSpec pageManifest "." "index.html" ∧
    ∃ step ∈ (pagedSpec.draft pageManifest).steps, step.id = "routes" ∧
      step.checks = pagedSpec.routes.map (.routeExists "./web/") ∧
      ∃ after, performAll (host.performer "t" pageManifest) step.id (step.ops.map .op) ⟨.empty, (), []⟩ =
          (.ok (), after) ∧
        ∀ check ∈ step.checks, (check.evaluate host pageManifest after).1 = .ok .pass := by
  obtain ⟨⟨step, hstep, hid⟩, hsteps⟩ := pages_exist_of_performAll paged_pagedSpec
  obtain ⟨hchecks, -, hruns⟩ := hsteps step hstep hid
  obtain ⟨after, hperform⟩ := exists_page_run step hstep hid
  exact ⟨paged_pagedSpec, step, hstep, hid, hchecks, after, hperform, (hruns _ host).2 "t" _ after hperform⟩

end Sample

end GuardedPlan
