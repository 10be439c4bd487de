import GuardedPlan.Proofs.Execution.Confinement
import GuardedPlan.Proofs.Json.Quoted
import GuardedPlan.Proofs.Plan.Expanded
import GuardedPlan.Proofs.Plan.Outline

/-!
# Routes in a table

A table of routes is written by a macro that is given the routes as JSON, and a route is looked for in the table between quotation marks. The writer escapes what JSON has to escape and the reader takes the route as it is, so the two agree on a route exactly if nothing in it has to be escaped.

When all operations of a step were performed, each of them was applied to the files that the one before it left; between two of them only the log grows. So what holds of the files in the end is what one operation brings about, or what held at the beginning, as long as no operation undoes it.
-/

namespace GuardedPlan

variable {σ : Type}

/-! ### The operations of a step -/

section

variable {host : Host σ} {target step : String} {manifest : Manifest} {op : Op} {ops : List Op}
  {world after : World σ}

/-- The first operation was applied to the files as they were, and the others were performed on the files that it left. -/
theorem exists_apply_of_performAll
    (h : performAll (host.performer target manifest) step ((op :: ops).map .op) world = (.ok (), after)) :
    ∃ before middle later : World σ, before.tree = world.tree ∧ op.apply host target before = (.ok (), middle) ∧
      later.tree = middle.tree ∧
      performAll (host.performer target manifest) step (ops.map .op) later = (.ok (), after) := by
  rw [List.map_cons, performAll, Host.performer_attempt] at h
  cases hattempt : (Item.op op).attempt host target manifest (world.record (.attempted step (.op op))) with
  | mk outcome middle =>
    rw [hattempt] at h
    cases outcome with
    | error fault => cases h
    | ok found =>
      refine ⟨world.record (.attempted step (.op op)), middle, _, rfl, Item.apply_of_attempt hattempt, ?_, h⟩
      cases found <;> rfl

theorem holds_of_performAll {P : FileTree → Prop}
    (hkept : ∀ op ∈ ops, ∀ before middle : World σ,
      op.apply host target before = (.ok (), middle) → P before.tree → P middle.tree)
    (h : performAll (host.performer target manifest) step (ops.map .op) world = (.ok (), after))
    (hmade : P world.tree ∨ ∃ op ∈ ops, ∀ before middle : World σ,
      op.apply host target before = (.ok (), middle) → P middle.tree) :
    P after.tree := by
  induction ops generalizing world with
  | nil =>
    cases h
    rcases hmade with hworld | ⟨op, hop, -⟩
    · exact hworld
    · cases hop
  | cons op rest ih =>
    obtain ⟨before, middle, later, hbefore, happly, hlater, hrest⟩ := exists_apply_of_performAll h
    obtain ⟨hop, hothers⟩ := List.forall_mem_cons.1 hkept
    refine ih hothers hrest ?_
    rw [hlater]
    rcases hmade with hworld | ⟨own, hown, hbrought⟩
    · rw [← hbefore] at hworld
      exact .inl (hop before middle happly hworld)
    · rcases List.mem_cons.1 hown with rfl | hown
      · exact .inl (hbrought before middle happly)
      · exact .inr ⟨own, hown, hbrought⟩

end

/-! ### Reading what was written -/

theorem FileTree.PutsBelow.textBelow_eq {tree written : FileTree} {directory path content : String}
    (h : tree.PutsBelow directory path (fun _ => content.toUTF8) (.ok (), written)) :
    written.textBelow directory path = .ok (some content) := by
  cases h with
  | @put prepared location before hprepare hopen =>
    have hwrite : prepared.write (Path.below directory path) content.toUTF8 =
        .ok (prepared.putFile location content.toUTF8) := by
      rw [write, hopen]
      rfl
    obtain ⟨isExecutable, hnode⟩ := write_eq_ok hwrite
    have hfile : (prepared.putFile location content.toUTF8).isFile (Path.below directory path) = true := by
      rw [isFile, stat, hnode]
      rfl
    rw [textBelow, if_pos (isContained_of_prepare hprepare), readIfFile, if_pos hfile, readText_of_write hwrite]
    rfl

namespace Routing

theorem any_quotedForms_iff (route text : String) :
    ((quotedForms route).any fun form => Text.contains form.toList text.toList) = true ↔
      ∃ mark ∈ Json.marks, mark :: route.toList ++ [mark] <:+: text.toList := by
  have hforms : quotedForms route = Json.marks.map fun mark => String.ofList (mark :: route.toList ++ [mark]) := by
    simp [quotedForms, Json.marks, ← String.toList_inj]
  rw [hforms, List.any_map, List.any_eq_true]
  simp [Text.contains_iff_isInfix]

/-- The table holds the route between quotation marks. -/
theorem evaluate_routeExists {host : Host σ} {manifest : Manifest} {routesFile directory text : String}
    {world : World σ} (hrouting : manifest.semantics.routing = some (.routerTable routesFile))
    (htext : world.tree.textBelow host.directory (Path.join [directory, routesFile]) = .ok (some text))
    (route : String) :
    ((Check.routeExists directory route).evaluate host manifest world).1 = .ok .pass ↔
      ∃ mark ∈ Json.marks, mark :: route.toList ++ [mark] <:+: text.toList := by
  rw [Check.evaluate, hrouting, ← any_quotedForms_iff]
  dsimp only
  rw [verdict, htext]
  simp [Except.map, Verdict.ofText, Verdict.require]

end Routing

/-! ### The step that writes the table -/

namespace Standard

/-- A spec of version 1 with routes and without steps, for a manifest that keeps routes in a table: a macro writes one file, in which the list of the routes stands. -/
structure Tabled (spec : Spec) (manifest : Manifest) (routesFile : String) : Prop where
  legacy : spec.isCurrent = false
  stepless : spec.steps = none
  routed : spec.routes ≠ []
  rooted : ∀ route ∈ spec.routes, route.toList.head? = some '/'
  routing : manifest.semantics.routing = some (.routerTable routesFile)
  table : ∃ definition content, manifest.macros.get? "routing.table" = some definition ∧
    definition.args.get? "routes" = some .json ∧ definition.args.get? "file" = some .path ∧
    definition.expandsTo = [.writeFile (Macro.placeholder "file") content] ∧
    (Macro.placeholder "routes").toList <:+: content.toList

/-- The arguments of the macro that writes the table. -/
def tableArgs (spec : Spec) (routesFile : String) : Table Json :=
  .ofList [("dir", .string spec.appDirectory), ("routes", Json.strings spec.routes),
    ("file", .string (Path.join [spec.appDirectory, routesFile]))]

theorem get_tableArgs (spec : Spec) (routesFile : String) :
    (tableArgs spec routesFile).get? "routes" = some (Json.strings spec.routes) ∧
      (tableArgs spec routesFile).get? "file" = some (.string (Path.join [spec.appDirectory, routesFile])) := by
  simp [tableArgs, Table.ofList, Table.get_insert]

theorem isName_table : Macro.IsName "routes" ∧ Macro.IsName "file" :=
  ⟨⟨⟨'r', "outes".toList, rfl, rfl⟩, List.all_eq_true.1 rfl⟩, ⟨⟨'f', "ile".toList, rfl, rfl⟩, List.all_eq_true.1 rfl⟩⟩

variable {spec : Spec} {manifest : Manifest} {routesFile : String} {definition : MacroDefinition}

/-- The texts of the arguments of the macro. -/
theorem lookup_tableArgs (spec : Spec) (routesFile : String) (hroutes : definition.args.get? "routes" = some .json)
    (hfile : definition.args.get? "file" = some .path) :
    (Macro.bind definition.args (tableArgs spec routesFile)).lookup "routes" = some (Json.strings spec.routes).compact ∧
      (Macro.bind definition.args (tableArgs spec routesFile)).lookup "file" =
        some (Path.join [spec.appDirectory, routesFile]) := by
  obtain ⟨hroutesValue, hfileValue⟩ := get_tableArgs spec routesFile
  rw [Macro.lookup_bind, Macro.lookup_bind, hroutes, hfile, hroutesValue, hfileValue]
  exact ⟨rfl, rfl⟩

/-- The one step with the id of the routes writes the table, at the place where they are looked for, and checks every route. -/
theorem table_step {content : String} (hsteps : spec.steps = none) (hroutes : spec.routes ≠ [])
    (hrouting : manifest.semantics.routing = some (.routerTable routesFile))
    (hdefinition : manifest.macros.get? "routing.table" = some definition)
    (hargs : definition.args.get? "routes" = some .json ∧ definition.args.get? "file" = some .path)
    (hbody : definition.expandsTo = [.writeFile (Macro.placeholder "file") content]) :
    (∃ step ∈ (spec.draft manifest).steps, step.id = "routes") ∧
      ∀ step ∈ (spec.draft manifest).steps, step.id = "routes" →
        step.checks = spec.routes.map (.routeExists spec.appDirectory) ∧
        step.ops = [.writeFile (Path.join [spec.appDirectory, routesFile])
          (Macro.fill (Macro.bind definition.args (tableArgs spec routesFile)) content)] := by
  obtain ⟨hexists, hmade⟩ := spec.routes_step_of_macro hsteps hroutes hrouting hdefinition
  have hfile := Macro.fill_placeholder isName_table.2 (lookup_tableArgs spec routesFile hargs.1 hargs.2).2
  have hcalls : routeCalls spec (.routerTable routesFile) = [tableArgs spec routesFile] := rfl
  refine ⟨hexists, fun step hstep hroutes => ?_⟩
  obtain ⟨hchecks, hops⟩ := hmade step hstep hroutes
  rw [hcalls, List.flatMap_singleton, hbody, List.map_singleton, Macro.instantiate, hfile] at hops
  exact ⟨hchecks, hops⟩

/-- The table is one file, and the list of the routes stands in it. -/
theorem Tabled.exists_content (h : Tabled spec manifest routesFile) :
    ∃ content : String, (Json.strings spec.routes).compact.toList <:+: content.toList ∧
      (∃ step ∈ (spec.draft manifest).steps, step.id = "routes") ∧
      ∀ step ∈ (spec.draft manifest).steps, step.id = "routes" →
        step.checks = spec.routes.map (.routeExists spec.appDirectory) ∧
        step.ops = [.writeFile (Path.join [spec.appDirectory, routesFile]) content] := by
  obtain ⟨definition, content, hdefinition, hroutes, hfile, hbody, hcontent⟩ := h.table
  obtain ⟨hlist, -⟩ := lookup_tableArgs spec routesFile hroutes hfile
  exact ⟨_, Macro.infix_fill isName_table.1 hlist hcontent,
    table_step h.stepless h.routed h.routing hdefinition ⟨hroutes, hfile⟩ hbody⟩

end Standard

/-- Once the step has written its file, a route is found if it stands in the text between quotation marks. -/
theorem evaluate_routeExists_of_performAll {host : Host σ} {target : String} {manifest : Manifest} {step : Step}
    {routesFile directory content : String} {world after : World σ}
    (hrouting : manifest.semantics.routing = some (.routerTable routesFile))
    (hops : step.ops = [.writeFile (Path.join [directory, routesFile]) content])
    (h : performAll (host.performer target manifest) step.id (step.ops.map .op) world = (.ok (), after)) (route : String) :
    ((Check.routeExists directory route).evaluate host manifest after).1 = .ok .pass ↔
      ∃ mark ∈ Json.marks, mark :: route.toList ++ [mark] <:+: content.toList := by
  rw [hops] at h
  obtain ⟨before, middle, later, -, happly, hlater, hrest⟩ := exists_apply_of_performAll h
  cases hrest
  have hput := Op.putsBelow_of_writeFile happly
  rw [← hlater] at hput
  exact Routing.evaluate_routeExists hrouting hput.textBelow_eq route

namespace Sample

def routedSpec (route : String) : Spec where
  version := 1
  target := "t"
  project := ⟨"n", none⟩
  workspace := none
  ui := none
  routes := [route]
  gates := none
  steps := none
  intent := none
  docs := none
  effects := none
  artifacts := none
  assumptions := []
  decisions := []

/-- The macro that writes the routes and nothing else. -/
def tableMacro : MacroDefinition where
  description := none
  args := .ofList [("file", .path), ("routes", .json)]
  expandsTo := [.writeFile (Macro.placeholder "file") (Macro.placeholder "routes")]

/-- A manifest with that macro. -/
def tableManifest : Manifest where
  id := none
  presetVersion := "1"
  effectsPolicy := ⟨["**"], []⟩
  commands := ⟨[], []⟩
  macros := .ofList [("routing.table", tableMacro)]
  semantics := { routing := some (.routerTable "r") }

theorem args_tableMacro :
    tableMacro.args.get? "routes" = some .json ∧ tableMacro.args.get? "file" = some .path := by
  simp [tableMacro, Table.ofList, Table.get_insert]

theorem macro_tableManifest : tableManifest.macros.get? "routing.table" = some tableMacro := by
  simp [tableManifest, Table.ofList, Table.get_insert]

theorem tabled_routedSpec {route : String} (h : route.toList.head? = some '/') :
    Standard.Tabled (routedSpec route) tableManifest "r" where
  legacy := rfl
  stepless := rfl
  routed := List.cons_ne_nil _ _
  rooted := List.forall_mem_singleton.2 h
  routing := rfl
  table := ⟨tableMacro, _, macro_tableManifest, args_tableMacro.1, args_tableMacro.2, rfl, List.infix_rfl⟩

/-- The step for a single route writes a table that holds nothing else, and in an empty directory it can. -/
theorem exists_table_run {route : String} (h : route.toList.head? = some '/') :
    ∃ step ∈ ((routedSpec route).draft tableManifest).steps, step.id = "routes" ∧
      step.checks = [.routeExists "app" route] ∧
      step.ops = [.writeFile (Path.join ["app", "r"]) (Json.strings [route]).compact] ∧
      ∃ after, performAll (host.performer "t" tableManifest) step.id (step.ops.map .op) ⟨.empty, (), []⟩ =
        (.ok (), after) := by
  have htabled := tabled_routedSpec h
  obtain ⟨⟨step, hstep, hid⟩, hsteps⟩ := Standard.table_step htabled.stepless htabled.routed htabled.routing
    macro_tableManifest args_tableMacro rfl
  obtain ⟨hchecks, hops⟩ := hsteps step hstep hid
  obtain ⟨hlist, -⟩ := Standard.lookup_tableArgs (routedSpec route) "r" args_tableMacro.1 args_tableMacro.2
  rw [Macro.fill_placeholder Standard.isName_table.1 hlist] at hops
  have hrun : ∀ content, ∃ after, performAll (host.performer "t" tableManifest) step.id
      [.op (.writeFile (Path.join ["app", "r"]) content)] ⟨.empty, (), []⟩ = (.ok (), after) := fun _ => ⟨_, rfl⟩
  refine ⟨step, hstep, hid, hchecks, hops, ?_⟩
  rw [hops]
  exact hrun _

end Sample

/-- In a plan for a table of routes there is a step that checks every route. Once its operations were applied, the check of a route passes in all such plans exactly if nothing in the route has to be escaped. -/
theorem routes_exist_iff_unescaped (route : String) (hroute : route.toList.head? = some '/') :
    (∀ spec manifest routesFile, Standard.Tabled spec manifest routesFile → route ∈ spec.routes →
      ∃ step ∈ (spec.draft manifest).steps, step.id = "routes" ∧
        .routeExists spec.appDirectory route ∈ step.checks) ∧
    ((∀ spec manifest routesFile, Standard.Tabled spec manifest routesFile →
        ∀ step ∈ (spec.draft manifest).steps, step.id = "routes" →
        ∀ directory, .routeExists directory route ∈ step.checks →
        ∀ (σ : Type) (host : Host σ) (target : String) (world after : World σ),
          performAll (host.performer target manifest) step.id (step.ops.map .op) world = (.ok (), after) →
          ((Check.routeExists directory route).evaluate host manifest after).1 = .ok .pass) ↔
      ∀ c ∈ route.toList, Json.Unescaped c) := by
  refine ⟨fun spec manifest routesFile htabled hmem => ?_, fun h => ?_, fun h => ?_⟩
  · obtain ⟨content, -, ⟨step, hstep, hid⟩, hsteps⟩ := htabled.exists_content
    refine ⟨step, hstep, hid, ?_⟩
    rw [(hsteps step hstep hid).1]
    exact List.mem_map_of_mem hmem
  · -- the smallest table holds nothing but the route, so that it is found for no other reason
    have htabled := Sample.tabled_routedSpec hroute
    obtain ⟨step, hstep, hid, hchecks, hops, after, hperform⟩ := Sample.exists_table_run hroute
    have hcheck : Check.routeExists "app" route ∈ step.checks := by
      rw [hchecks]
      exact List.mem_singleton_self _
    have hpass := h _ _ _ htabled step hstep hid "app" hcheck Unit Sample.host "t" _ _ hperform
    exact (Json.exists_marked_infix_iff route).1
      ((evaluate_routeExists_of_performAll htabled.routing hops hperform route).1 hpass)
  · intro spec manifest routesFile htabled step hstep hid directory hcheck σ host target world after hperform
    obtain ⟨content, hcontent, -, hsteps⟩ := htabled.exists_content
    obtain ⟨hchecks, hops⟩ := hsteps step hstep hid
    rw [hchecks] at hcheck
    obtain ⟨own, hmem, hsame⟩ := List.mem_map.1 hcheck
    cases hsame
    rw [evaluate_routeExists_of_performAll htabled.routing hops hperform]
    refine ⟨'"', by decide, ?_⟩
    rw [← Json.stringText_of_unescaped h]
    exact (Json.stringText_infix_compact hmem).trans hcontent

theorem routes_exist_iff_unescaped_samples :
    (∃ step ∈ ((Sample.routedSpec "/about").draft Sample.tableManifest).steps,
      step.checks = [.routeExists "app" "/about"] ∧ ∃ after,
        performAll (Sample.host.performer "t" Sample.tableManifest) step.id (step.ops.map .op) ⟨.empty, (), []⟩ =
          (.ok (), after) ∧
        ((Check.routeExists "app" "/about").evaluate Sample.host Sample.tableManifest after).1 = .ok .pass) ∧
    ¬ ∀ spec manifest routesFile, Standard.Tabled spec manifest routesFile →
        ∀ step ∈ (spec.draft manifest).steps, step.id = "routes" →
        ∀ directory, .routeExists directory "/a\"b" ∈ step.checks →
        ∀ (σ : Type) (host : Host σ) (target : String) (world after : World σ),
          performAll (host.performer target manifest) step.id (step.ops.map .op) world = (.ok (), after) →
          ((Check.routeExists directory "/a\"b").evaluate host manifest after).1 = .ok .pass := by
  constructor
  · obtain ⟨-, hexist⟩ := routes_exist_iff_unescaped "/about" (by decide)
    have htabled := @Sample.tabled_routedSpec "/about" (by decide)
    obtain ⟨step, hstep, hid, hchecks, -, after, hperform⟩ := @Sample.exists_table_run "/about" (by decide)
    have hcheck : Check.routeExists "app" "/about" ∈ step.checks := by
      rw [hchecks]
      exact List.mem_singleton_self _
    have hplain : ∀ c ∈ "/about".toList, Json.Unescaped c := by
      simp [Json.Unescaped]
    exact ⟨step, hstep, hchecks, after, hperform, hexist.2 hplain _ _ _ htabled step hstep hid "app" hcheck Unit
      Sample.host "t" _ _ hperform⟩
  · obtain ⟨-, hexist⟩ := routes_exist_iff_unescaped "/a\"b" (by decide)
    rw [hexist]
    simp [Json.Unescaped]

end GuardedPlan
