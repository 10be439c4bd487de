import GuardedPlan.Proofs.Base.Lists
import GuardedPlan.Proofs.Plan.Call
import GuardedPlan.Proofs.Plan.Outline

/-!
# Authored steps in a plan

What becomes of the steps of a spec that lists them. Every authored step is one step of the plan, and every action and every ensure has a share in it of its own: operations or a check if it can be carried out, and otherwise nothing but one error at its place. No two entries have the same place, so what is found at a place is what its own entry has brought about.
-/

namespace GuardedPlan

/-! ### Places -/

theorem toDigits_ten_inj {n other : Nat} (h : Nat.toDigits 10 n = Nat.toDigits 10 other) : n = other := by
  rw [← @Nat.ofDigitChars_ten_toDigits n, h, Nat.ofDigitChars_ten_toDigits]

theorem not_mem_toDigits {c : Char} (hc : c.isDigit = false) (n : Nat) : c ∉ Nat.toDigits 10 n := by
  intro hmem
  rw [Nat.isDigit_of_mem_toDigits (by decide) (by decide) hmem] at hc
  cases hc

namespace AuthoredStep

theorem toList_place (index : Nat) (list : String) (entry : Nat) :
    (place index list entry).toList = "steps[".toList ++ (Nat.toDigits 10 index ++
      ']' :: '.' :: (list.toList ++ '[' :: (Nat.toDigits 10 entry ++ [']']))) := by
  simp [place]

/-- A place names the step, the list and the entry: the numbers end at a bracket and so does the name of a list. -/
theorem place_inj {index other : Nat} {list name : String} {entry item : Nat} (hlist : '[' ∉ list.toList)
    (hname : '[' ∉ name.toList) (h : place index list entry = place other name item) :
    index = other ∧ list = name ∧ entry = item := by
  rw [← String.toList_inj, toList_place, toList_place] at h
  obtain ⟨hindex, hrest⟩ := eq_of_append_cons_eq (List.append_cancel_left h)
    (not_mem_toDigits rfl index) (not_mem_toDigits rfl other)
  obtain ⟨hsame, hentry⟩ := eq_of_append_cons_eq (List.cons.inj hrest).2 hlist hname
  exact ⟨toDigits_ten_inj hindex, String.toList_inj.1 hsame, toDigits_ten_inj (List.append_cancel_right hentry)⟩

theorem place_actions_ne_ensures (index entry other item : Nat) :
    place index "actions" entry ≠ place other "ensures" item := by
  intro h
  exact absurd (place_inj (by decide) (by decide) h).2.1 (by decide)

end AuthoredStep

/-- The findings about a place. -/
def locatedAt (place : String) (found : List Diagnostic) : List Diagnostic :=
  found.filter fun d => d.path = some place

theorem locatedAt_append (place : String) (found others : List Diagnostic) :
    locatedAt place (found ++ others) = locatedAt place found ++ locatedAt place others :=
  List.filter_append _ _

theorem locatedAt_eq_nil {place : String} {found : List Diagnostic} (h : ∀ d ∈ found, d.path ≠ some place) :
    locatedAt place found = [] := by
  rw [locatedAt, List.filter_eq_nil_iff]
  intro d hd
  rw [decide_eq_true_eq]
  exact h d hd

/-- Where every entry of a list has a place of its own, what is found at the place of an entry comes from there. -/
theorem locatedAt_numbered {α : Type} {items : List α} {f : α × Nat → List Diagnostic} (placeOf : Nat → String)
    (hplace : ∀ index other, placeOf index = placeOf other → index = other)
    (hpath : ∀ entry, ∀ d ∈ f entry, d.path = some (placeOf entry.2)) {item : α} {index : Nat}
    (hmem : (item, index) ∈ items.zipIdx) :
    locatedAt (placeOf index) (items.zipIdx.flatMap f) = f (item, index) := by
  have hown : (f (item, index)).filter (fun d => d.path = some (placeOf index)) = f (item, index) := by
    rw [List.filter_eq_self]
    intro d hd
    rw [decide_eq_true_eq]
    exact hpath _ d hd
  rw [locatedAt, filter_flatMap_zipIdx hmem, hown]
  intro entry _ hindex d hd
  rw [hpath entry d hd, decide_eq_false_iff_not, Option.some.injEq]
  intro hsame
  exact hindex (hplace _ _ hsame)

/-! ### Shares of entries -/

/-- An action that cannot be carried out, with the code of the error: it cannot be read, writes a file without saying what, or calls a macro that the manifest does not have. -/
inductive Action.Faulty (manifest : Manifest) : Json → Code → Prop
  | unreadable {raw : Json} {fault : DecodeError} (h : decode raw = .error fault) : Faulty manifest raw .unknownAction
  | contentless {raw : Json} {path : String} {vars : Table String} (h : decode raw = .ok (.writeFile path none none vars)) :
    Faulty manifest raw .writeFileNoContent
  | unknown {raw : Json} {name : String} {args : Table Json} (h : decode raw = .ok (.expand name args))
    (hunknown : manifest.macros.get? name = none) : Faulty manifest raw .unknownMacro

/-- What an action at a place adds to its step, and what is found in it. -/
inductive Action.Adds (manifest : Manifest) (place : String) : Json → List Op → List Diagnostic → Prop
  | run {raw : Json} {command : String} (h : decode raw = .ok (.run command)) :
    Adds manifest place raw [.run command] []
  | appendFile {raw : Json} {path content : String} (h : decode raw = .ok (.appendFile path content)) :
    Adds manifest place raw [.appendFile path content] []
  | writeFile {raw : Json} {path content : String} {vars : Table String}
    (h : decode raw = .ok (.writeFile path (some content) none vars)) :
    Adds manifest place raw [.writeFile path content] []
  | writeTemplate {raw : Json} {path template : String} {content : Option String} {vars : Table String}
    (h : decode raw = .ok (.writeFile path content (some template) vars)) :
    Adds manifest place raw [.writeTemplate path template vars] []
  | call {raw : Json} {name : String} {args : Table Json} {definition : MacroDefinition}
    (h : decode raw = .ok (.expand name args)) (hknown : manifest.macros.get? name = some definition) :
    Adds manifest place raw (Macro.expand manifest name args place).ops
      (Macro.expand manifest name args place).diagnostics
  | fault {raw : Json} {code : Code} {d : Diagnostic} (h : Faulty manifest raw code) (hcode : d.code = code)
    (herror : d.isError = true) (hpath : d.path = some place) : Adds manifest place raw [] [d]

/-- What an ensure at a place adds to its step, and what is found in it. A route is looked for in the directory of the application, and a resemblance without a threshold or a gate gets the usual ones. -/
inductive Ensure.Adds (appDirectory place : String) : Json → List Check → List Diagnostic → Prop
  | fileExists {raw : Json} {path : String} (h : decode raw = .ok (.fileExists path)) :
    Adds appDirectory place raw [.fileExists path] []
  | fileContains {raw : Json} {path text : String} (h : decode raw = .ok (.fileContains path text)) :
    Adds appDirectory place raw [.fileContains path text] []
  | routeExists {raw : Json} {route : String} (h : decode raw = .ok (.routeExists route)) :
    Adds appDirectory place raw [.routeExists appDirectory route] []
  | commandSucceeds {raw : Json} {command : String} (h : decode raw = .ok (.commandSucceeds command)) :
    Adds appDirectory place raw [.commandSucceeds command] []
  | trackedOnly {raw : Json} {directory glob : String} {allow : List String}
    (h : decode raw = .ok (.trackedOnly directory glob allow)) :
    Adds appDirectory place raw [.trackedOnly directory glob allow] []
  | docSection {raw : Json} {path title : String} (h : decode raw = .ok (.docSection path title)) :
    Adds appDirectory place raw [.docSection path title] []
  | docContains {raw : Json} {path text : String} (h : decode raw = .ok (.docContains path text)) :
    Adds appDirectory place raw [.docContains path text] []
  | docResembles {raw : Json} {path text : String} {threshold : Option Binary64} {gate : Option Bool}
    (h : decode raw = .ok (.docResembles path text threshold gate)) :
    Adds appDirectory place raw
      [.docResembles path text (threshold.getD Check.defaultThreshold) (gate.getD true)] []
  | artifactExists {raw : Json} {path : String} (h : decode raw = .ok (.artifactExists path)) :
    Adds appDirectory place raw [.artifactExists path] []
  | fault {raw : Json} {fault : DecodeError} {d : Diagnostic} (h : decode raw = .error fault)
    (hcode : d.code = .unknownEnsure) (herror : d.isError = true) (hpath : d.path = some place) :
    Adds appDirectory place raw [] [d]

section

variable {manifest : Manifest} {appDirectory place : String} {raw : Json} {found : List Diagnostic} {d : Diagnostic}

theorem Macro.path_of_mem_expand {name : String} {args : Table Json}
    (hd : d ∈ (expand manifest name args place).diagnostics) : d.path = some place := by
  rw [expand] at hd
  split at hd
  · rw [List.mem_singleton] at hd
    rw [hd]
    rfl
  · obtain ⟨entry, -, hfault⟩ := List.mem_filterMap.1 hd
    obtain ⟨fault, -, rfl⟩ := Option.map_eq_some_iff.1 hfault
    rfl

theorem Action.Adds.path {ops : List Op} (h : Adds manifest place raw ops found) (hd : d ∈ found) :
    d.path = some place := by
  cases h with
  | call _ _ => exact Macro.path_of_mem_expand hd
  | fault _ _ _ hpath =>
    rw [List.mem_singleton.1 hd]
    exact hpath
  | _ => cases hd

theorem Ensure.Adds.path {checks : List Check} (h : Adds appDirectory place raw checks found) (hd : d ∈ found) :
    d.path = some place := by
  cases h with
  | fault _ _ _ hpath =>
    rw [List.mem_singleton.1 hd]
    exact hpath
  | _ => cases hd

namespace AuthoredStep

theorem adds_actionExpansion (manifest : Manifest) (id place : String) (raw : Json) :
    Action.Adds manifest place raw (actionExpansion manifest id place raw).ops
      (actionExpansion manifest id place raw).diagnostics := by
  rw [actionExpansion]
  cases hraw : Action.decode raw with
  | error fault => exact .fault (.unreadable hraw) rfl (by simp [Diagnostic.isError_iff]) rfl
  | ok action =>
    dsimp only
    cases action with
    | run command => exact .run hraw
    | appendFile path content => exact .appendFile hraw
    | writeFile path content template vars =>
      cases template with
      | some template => exact .writeTemplate hraw
      | none =>
        cases content with
        | some content => exact .writeFile hraw
        | none => exact .fault (.contentless hraw) rfl (by simp [Diagnostic.isError_iff]) rfl
    | expand name args =>
      rw [Action.expansion]
      cases hmacro : manifest.macros.get? name with
      | some definition => exact .call hraw hmacro
      | none =>
        rw [Macro.expand, hmacro]
        exact .fault (.unknown hraw hmacro) rfl (by simp [Diagnostic.isError_iff]) rfl

theorem adds_ensureCheck (appDirectory id place : String) (raw : Json) :
    Ensure.Adds appDirectory place raw (kept? (ensureCheck appDirectory id place raw)).toList
      (finding? (ensureCheck appDirectory id place raw)).toList := by
  rw [ensureCheck]
  cases hraw : Ensure.decode raw with
  | error fault => exact .fault hraw rfl (by simp [Diagnostic.isError_iff]) rfl
  | ok ensure =>
    cases ensure with
    | fileExists path => exact .fileExists hraw
    | fileContains path text => exact .fileContains hraw
    | routeExists route => exact .routeExists hraw
    | commandSucceeds command => exact .commandSucceeds hraw
    | trackedOnly directory glob allow => exact .trackedOnly hraw
    | docSection path title => exact .docSection hraw
    | docContains path text => exact .docContains hraw
    | docResembles path text threshold gate => exact .docResembles hraw
    | artifactExists path => exact .artifactExists hraw

end AuthoredStep

end

/-! ### Steps -/

namespace AuthoredStep

variable {manifest : Manifest} {appDirectory : String} {index : Nat} {step : AuthoredStep} {d : Diagnostic}

/-- A step of a plan is an authored one: it has the same id, requirements, claims and decisions, its operations are what its actions add, one after the other, its checks what its ensures add, and what an entry adds to the findings is all that is found at its place. -/
structure Becomes (manifest : Manifest) (appDirectory : String) (found : List Diagnostic) (index : Nat)
    (authored : AuthoredStep) (step : Step) : Prop where
  id : step.id = authored.id
  requires : step.requires = authored.requires
  claims : step.claims = authored.claims
  decisions : step.decisions = authored.decisions
  ops : ∃ parts : List (List Op), step.ops = parts.flatten ∧
    List.Forall₂ (fun entry ops => Action.Adds manifest (place index "actions" entry.2) entry.1 ops
      (locatedAt (place index "actions" entry.2) found)) authored.actions.zipIdx parts
  checks : ∃ parts : List (List Check), step.checks = parts.flatten ∧
    List.Forall₂ (fun entry checks => Ensure.Adds appDirectory (place index "ensures" entry.2) entry.1 checks
      (locatedAt (place index "ensures" entry.2) found)) authored.ensures.zipIdx parts

/-- The place of an action or an ensure of the step at an index. -/
def IsPlace (index : Nat) (step : AuthoredStep) (place : String) : Prop :=
  (∃ entry ∈ step.actions.zipIdx, place = AuthoredStep.place index "actions" entry.2) ∨
    ∃ entry ∈ step.ensures.zipIdx, place = AuthoredStep.place index "ensures" entry.2

theorem findings_eq (manifest : Manifest) (appDirectory : String) (index : Nat) (step : AuthoredStep) :
    step.findings manifest appDirectory index =
      step.actions.zipIdx.flatMap (fun entry =>
        (actionExpansion manifest step.id (place index "actions" entry.2) entry.1).diagnostics) ++
      step.ensures.zipIdx.flatMap fun entry =>
        (finding? (ensureCheck appDirectory step.id (place index "ensures" entry.2) entry.1)).toList := by
  rw [findings, expansions, List.flatMap_map, ensureChecks, List.filterMap_map, List.filterMap_eq_flatMap_toList]
  rfl

theorem isPlace_of_mem_findings (hd : d ∈ step.findings manifest appDirectory index) :
    ∃ place, d.path = some place ∧ step.IsPlace index place := by
  rw [findings_eq] at hd
  rcases List.mem_append.1 hd with hd | hd
  · obtain ⟨entry, hentry, hd⟩ := List.mem_flatMap.1 hd
    exact ⟨_, (adds_actionExpansion manifest step.id _ entry.1).path hd, .inl ⟨entry, hentry, rfl⟩⟩
  · obtain ⟨entry, hentry, hd⟩ := List.mem_flatMap.1 hd
    exact ⟨_, (adds_ensureCheck appDirectory step.id _ entry.1).path hd, .inr ⟨entry, hentry, rfl⟩⟩

theorem IsPlace.index_eq {other : Nat} {another : AuthoredStep} {place : String} (h : step.IsPlace index place)
    (hother : another.IsPlace other place) : index = other := by
  rcases h with ⟨entry, -, rfl⟩ | ⟨entry, -, rfl⟩
  · rcases hother with ⟨item, -, hsame⟩ | ⟨item, -, hsame⟩
    · exact (place_inj (by decide) (by decide) hsame).1
    · exact absurd hsame (place_actions_ne_ensures _ _ _ _)
  · rcases hother with ⟨item, -, hsame⟩ | ⟨item, -, hsame⟩
    · exact absurd hsame.symm (place_actions_ne_ensures _ _ _ _)
    · exact (place_inj (by decide) (by decide) hsame).1

variable {steps : List AuthoredStep} {raw : Json} {entry : Nat}

theorem locatedAt_ofAuthored (hstep : (step, index) ∈ steps.zipIdx) {place : String} (hplace : step.IsPlace index place) :
    locatedAt place (Draft.ofAuthored manifest appDirectory steps).diagnostics =
      locatedAt place (step.findings manifest appDirectory index) := by
  refine filter_flatMap_zipIdx (f := fun entry => entry.1.findings manifest appDirectory entry.2) hstep ?_
  intro other hother hindex d hd
  obtain ⟨elsewhere, hpath, helsewhere⟩ := isPlace_of_mem_findings hd
  rw [hpath, decide_eq_false_iff_not, Option.some.injEq]
  rintro rfl
  exact hindex (helsewhere.index_eq hplace)

theorem locatedAt_actions (hraw : (raw, entry) ∈ step.actions.zipIdx) :
    locatedAt (place index "actions" entry) (step.findings manifest appDirectory index) =
      (actionExpansion manifest step.id (place index "actions" entry) raw).diagnostics := by
  rw [findings_eq, locatedAt_append, locatedAt_numbered (place index "actions") ?_ ?_ hraw,
    locatedAt_eq_nil, List.append_nil]
  · intro d hd
    obtain ⟨item, -, hd⟩ := List.mem_flatMap.1 hd
    rw [(adds_ensureCheck appDirectory step.id _ item.1).path hd, ne_eq, Option.some.injEq]
    exact (place_actions_ne_ensures _ _ _ _).symm
  · intro first second hsame
    exact (place_inj (by decide) (by decide) hsame).2.2
  · intro item d hd
    exact (adds_actionExpansion manifest step.id _ item.1).path hd

theorem locatedAt_ensures (hraw : (raw, entry) ∈ step.ensures.zipIdx) :
    locatedAt (place index "ensures" entry) (step.findings manifest appDirectory index) =
      (finding? (ensureCheck appDirectory step.id (place index "ensures" entry) raw)).toList := by
  rw [findings_eq, locatedAt_append, locatedAt_numbered (place index "ensures") ?_ ?_ hraw,
    locatedAt_eq_nil, List.nil_append]
  · intro d hd
    obtain ⟨item, -, hd⟩ := List.mem_flatMap.1 hd
    rw [(adds_actionExpansion manifest step.id _ item.1).path hd, ne_eq, Option.some.injEq]
    exact place_actions_ne_ensures _ _ _ _
  · intro first second hsame
    exact (place_inj (by decide) (by decide) hsame).2.2
  · intro item d hd
    exact (adds_ensureCheck appDirectory step.id _ item.1).path hd

/-- Every step of a draft is the authored one at the same index. -/
theorem becomes_planned (hstep : (step, index) ∈ steps.zipIdx) :
    step.Becomes manifest appDirectory (Draft.ofAuthored manifest appDirectory steps).diagnostics index
      (step.planned manifest appDirectory index) where
  id := rfl
  requires := rfl
  claims := rfl
  decisions := rfl
  ops := by
    refine ⟨_, List.flatMap_def .., ?_⟩
    rw [expansions, List.map_map, List.forall₂_map_right_iff, List.forall₂_same]
    rintro ⟨raw, entry⟩ hraw
    rw [locatedAt_ofAuthored hstep (.inl ⟨_, hraw, rfl⟩), locatedAt_actions hraw]
    exact adds_actionExpansion manifest step.id _ raw
  checks := by
    refine ⟨step.ensures.zipIdx.map fun entry =>
      (kept? (ensureCheck appDirectory step.id (place index "ensures" entry.2) entry.1)).toList, ?_, ?_⟩
    · rw [planned, ensureChecks, List.filterMap_map, List.filterMap_eq_flatMap_toList]
      rfl
    · rw [List.forall₂_map_right_iff, List.forall₂_same]
      rintro ⟨raw, entry⟩ hraw
      rw [locatedAt_ofAuthored hstep (.inr ⟨_, hraw, rfl⟩), locatedAt_ensures hraw]
      exact adds_ensureCheck appDirectory step.id _ raw

end AuthoredStep

/-- A plan says what authored steps say: it has a step for each of them, in their order, behind which comes nothing but the step that looks after the obligations of the spec, if it has any, and everything that was found is about an action or an ensure. -/
structure Draft.Translates (spec : Spec) (manifest : Manifest) (authored : List AuthoredStep) (draft : Draft) : Prop where
  steps : ∃ built closing, draft.steps = built ++ closing ∧
    List.Forall₂ (fun entry step => entry.1.Becomes manifest spec.appDirectory draft.diagnostics entry.2 step)
      authored.zipIdx built ∧
    ((¬ spec.HasObligations ∧ closing = []) ∨ spec.HasObligations ∧ closing = [spec.closingStep built])
  places : ∀ d ∈ draft.diagnostics, ∃ entry ∈ authored.zipIdx, ∃ place,
    d.path = some place ∧ entry.1.IsPlace entry.2 place

/-- Nothing is lost when authored steps become a plan, and nothing is added. -/
theorem Spec.draft_translates {spec : Spec} {authored : List AuthoredStep} (h : spec.steps = some authored)
    (manifest : Manifest) : (spec.draft manifest).Translates spec manifest authored := by
  obtain ⟨built, ⟨steps, hsteps, rfl⟩ | ⟨hnone, -⟩, hfound, hclosing⟩ := spec.draft_closes manifest
  · cases h.symm.trans hsteps
    refine ⟨⟨(Draft.ofAuthored manifest spec.appDirectory authored).steps, ?_⟩, ?_⟩
    · have hbuilt : List.Forall₂ (fun entry step =>
          entry.1.Becomes manifest spec.appDirectory (spec.draft manifest).diagnostics entry.2 step)
          authored.zipIdx (Draft.ofAuthored manifest spec.appDirectory authored).steps := by
        rw [hfound, Draft.ofAuthored, List.forall₂_map_right_iff, List.forall₂_same]
        rintro ⟨step, index⟩ hstep
        exact AuthoredStep.becomes_planned hstep
      rcases hclosing with ⟨hnone, hsteps⟩ | ⟨hsome, hsteps⟩
      · exact ⟨[], by rw [hsteps, List.append_nil], hbuilt, .inl ⟨hnone, rfl⟩⟩
      · exact ⟨_, hsteps, hbuilt, .inr ⟨hsome, rfl⟩⟩
    · intro d hd
      rw [hfound] at hd
      obtain ⟨⟨step, index⟩, hstep, hd⟩ := List.mem_flatMap.1 hd
      exact ⟨_, hstep, AuthoredStep.isPlace_of_mem_findings hd⟩
  · rw [h] at hnone
    cases hnone

namespace Sample

/-- A step with actions and ensures of which some cannot be carried out. -/
def mixedStep : AuthoredStep where
  id := "s"
  requires := ["r"]
  actions := [.object [("run", .string "go")], .object [("writeFile", .object [("path", .string "a")])], .string "run",
    .object [("macro", .object [("name", .string "docs.readme")])],
    .object [("macro", .object [("name", .string "docs.other")])]]
  ensures := [.object [("fileExists", .string "a")], .null, .object [("routeExists", .string "/b")],
    .object [("gitTrackedOnly", .object [("glob", .string "*.md")])], .object [("docSection", .string "c")],
    .object [("docContainsFuzzy", .object [("path", .string "c"), ("text", .string "d")])],
    .object [("cmdOk", .string "go")]]
  claims := ["A"]
  decisions := []

/-- The checks of the ensures that can be carried out. -/
def mixedChecks : List Check :=
  [.fileExists "a", .routeExists "app" "/b", .trackedOnly "." "*.md" [],
    .docResembles "c" "d" Check.defaultThreshold true, .commandSucceeds "go"]

/-- A spec that has the step twice, and an artifact. -/
def mixedSpec : Spec where
  version := 1
  target := "t"
  project := ⟨"n", none⟩
  workspace := none
  ui := none
  routes := []
  gates := none
  steps := some [mixedStep, mixedStep]
  intent := none
  docs := none
  effects := none
  artifacts := some [⟨"a", false⟩]
  assumptions := []
  decisions := []

theorem draft_mixedSpec :
    ((mixedSpec.draft readmeManifest).steps.map fun step => (step.id, step.ops.map Op.tag, step.checks)) =
        [("s", ["RUN", "RUN", "WRITE_FILE", "APPEND_FILE", "WRITE_TEMPLATE"], mixedChecks),
          ("s", ["RUN", "RUN", "WRITE_FILE", "APPEND_FILE", "WRITE_TEMPLATE"], mixedChecks),
          ("verify_docs", [], [.artifactExists "a"])] ∧
    (locatedAt "steps[1].actions[1]" (mixedSpec.draft readmeManifest).diagnostics).map Diagnostic.code =
      [.writeFileNoContent] ∧
    (locatedAt "steps[1].ensures[4]" (mixedSpec.draft readmeManifest).diagnostics).map Diagnostic.code =
      [.unknownEnsure] := by
  decide +kernel

end Sample

theorem Spec.draft_translates_mixed :
    Sample.mixedSpec.steps = some [Sample.mixedStep, Sample.mixedStep] ∧
    (Sample.mixedSpec.draft Sample.readmeManifest).Translates Sample.mixedSpec Sample.readmeManifest
      [Sample.mixedStep, Sample.mixedStep] ∧
    ((Sample.mixedSpec.draft Sample.readmeManifest).steps.map fun step =>
      (step.id, step.ops.map Op.tag, step.checks)) =
        [("s", ["RUN", "RUN", "WRITE_FILE", "APPEND_FILE", "WRITE_TEMPLATE"], Sample.mixedChecks),
          ("s", ["RUN", "RUN", "WRITE_FILE", "APPEND_FILE", "WRITE_TEMPLATE"], Sample.mixedChecks),
          ("verify_docs", [], [.artifactExists "a"])] ∧
    (locatedAt "steps[1].actions[1]" (Sample.mixedSpec.draft Sample.readmeManifest).diagnostics).map Diagnostic.code =
      [.writeFileNoContent] ∧
    (locatedAt "steps[1].ensures[4]" (Sample.mixedSpec.draft Sample.readmeManifest).diagnostics).map Diagnostic.code =
      [.unknownEnsure] :=
  ⟨rfl, @Spec.draft_translates Sample.mixedSpec _ rfl Sample.readmeManifest, Sample.draft_mixedSpec⟩

end GuardedPlan
