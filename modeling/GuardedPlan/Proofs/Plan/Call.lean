import GuardedPlan.Proofs.Base.Tables
import GuardedPlan.Proofs.Plan.Expanded
import Mathlib.Data.List.Forall2

/-!
# Calls of macros

What the call of a macro comes to, told by what the macro declares. A declared argument has a value that fits its type and stands for the text of that value, or it is at fault and stands for the empty text. Every argument at fault is reported once, in the order of the names and not by the placeholders that it fills, and an argument that is not declared is not looked at.
-/

namespace GuardedPlan

/-- The tag of the operation that an action becomes. -/
def MacroAction.tag : MacroAction → String
  | run _ => "RUN"
  | writeFile .. => "WRITE_FILE"
  | appendFile .. => "APPEND_FILE"
  | writeTemplate .. => "WRITE_TEMPLATE"

namespace Macro

/-! ### Values and types -/

/-- A value that is neither a list nor an object nor nothing, with the text that it is written as. -/
inductive Scalar : Json → String → Prop
  | string (text : String) : Scalar (.string text) text
  | number (n : Number) : Scalar (.number n) (String.ofList n.printed)
  | bool (value : Bool) : Scalar (.bool value) (if value then "true" else "false")

/-- A value fits a type and is written as a text: texts of a list stand one after the other, and any value can be written as JSON. -/
inductive Renders : ArgumentType → Json → String → Prop
  | path {value : Json} {text : String} (h : Scalar value text) : Renders .path value text
  | text {value : Json} {text : String} (h : Scalar value text) : Renders .text value text
  | textList (texts : List String) : Renders .textList (Json.strings texts) (" ".intercalate texts)
  | json (value : Json) : Renders .json value value.compact

theorem argumentText?_text_eq_some_iff {value : Json} {text : String} :
    argumentText? .text value = some text ↔ Scalar value text := by
  constructor
  · intro h
    cases value with
    | string own =>
      cases h
      exact .string _
    | number n =>
      cases h
      exact .number n
    | bool own =>
      cases h
      exact .bool own
    | _ => cases h
  · rintro (_ | _ | _)
    · rfl
    · rfl
    · rfl

theorem argumentText?_path (value : Json) : argumentText? .path value = argumentText? .text value := by
  cases value with
  | _ => rfl

theorem allTexts_eq_some_iff {items : List Json} {texts : List String} :
    allTexts items = some texts ↔ Json.array items = Json.strings texts := by
  rw [Json.strings, Json.array.injEq]
  induction items generalizing texts with
  | nil => simp [allTexts, eq_comm]
  | cons item rest ih =>
    cases item with
    | string text =>
      rw [allTexts, Option.map_eq_some_iff]
      constructor
      · rintro ⟨others, hothers, rfl⟩
        rw [ih.1 hothers, List.map_cons]
      · intro h
        obtain ⟨own, others, rfl, hown, hothers⟩ := List.map_eq_cons_iff.1 h.symm
        cases hown
        exact ⟨others, ih.2 hothers.symm, rfl⟩
    | _ =>
      simp only [allTexts, reduceCtorEq, false_iff]
      intro h
      obtain ⟨own, others, -, hown, -⟩ := List.map_eq_cons_iff.1 h.symm
      cases hown

theorem argumentText?_eq_some_iff {type : ArgumentType} {value : Json} {text : String} :
    argumentText? type value = some text ↔ Renders type value text := by
  constructor
  · intro h
    cases type with
    | path =>
      rw [argumentText?_path] at h
      exact .path (argumentText?_text_eq_some_iff.1 h)
    | text => exact .text (argumentText?_text_eq_some_iff.1 h)
    | textList =>
      cases value with
      | array items =>
        obtain ⟨texts, htexts, rfl⟩ := Option.map_eq_some_iff.1 h
        rw [allTexts_eq_some_iff.1 htexts]
        exact .textList texts
      | _ => cases h
    | json =>
      cases h
      exact .json value
  · intro h
    cases h with
    | path hscalar =>
      rw [argumentText?_path]
      exact argumentText?_text_eq_some_iff.2 hscalar
    | text hscalar => exact argumentText?_text_eq_some_iff.2 hscalar
    | textList texts => exact congrArg (Option.map _) (allTexts_eq_some_iff.2 rfl)
    | json => rfl

/-! ### Arguments -/

section

variable (name location : String) (declared : Table ArgumentType) (args : Table Json) (argument : String)

/-- A declared argument is at fault, with the finding about it: it is not given, or its value does not fit its type. -/
inductive Reports : Diagnostic → Prop
  | missing {type : ArgumentType} (htype : declared.get? argument = some type) (hmissing : args.get? argument = none) :
    Reports ⟨.missingMacroArg, "macro '" ++ name ++ "' is missing argument '" ++ argument ++ "'", none, some location⟩
  | mistyped {type : ArgumentType} {value : Json} (htype : declared.get? argument = some type)
    (hvalue : args.get? argument = some value) (hunfit : ∀ text, ¬ Renders type value text) :
    Reports ⟨.macroArgType, "macro '" ++ name ++ "' argument '" ++ argument ++ "' expects " ++ type.name ++ ", got " ++
      value.kind.name, none, some location⟩

/-- A declared argument stands for the text of its value, and for the empty text if it is at fault. -/
inductive StandsFor : String → Prop
  | value {type : ArgumentType} {value : Json} {text : String} (htype : declared.get? argument = some type)
    (hvalue : args.get? argument = some value) (hrenders : Renders type value text) : StandsFor text
  | fault {d : Diagnostic} (hreports : Reports name location declared args argument d) : StandsFor ""

end

section

variable {name location : String} {declared : Table ArgumentType} {args : Table Json} {argument : String}

theorem argumentFault?_ne_none_iff (name argument : String) {type : ArgumentType} {value : Option Json} :
    argumentFault? name argument type value ≠ none ↔ value.bind (argumentText? type) = none := by
  cases value with
  | none => simp [argumentFault?]
  | some value =>
    rw [argumentFault?, Option.bind_some]
    cases argumentText? type value with
    | none => simp
    | some text => simp

theorem reports_iff {d : Diagnostic} :
    Reports name location declared args argument d ↔ ∃ type, declared.get? argument = some type ∧
      (argumentFault? name argument type (args.get? argument)).map (·.located location) = some d := by
  constructor
  · intro h
    cases h with
    | missing htype hmissing =>
      refine ⟨_, htype, ?_⟩
      rw [hmissing]
      rfl
    | mistyped htype hvalue hunfit =>
      refine ⟨_, htype, ?_⟩
      have hnone : argumentText? _ _ = none :=
        Option.eq_none_iff_forall_ne_some.2 fun text h => hunfit text (argumentText?_eq_some_iff.1 h)
      rw [hvalue, argumentFault?, hnone]
      rfl
  · rintro ⟨type, htype, hfault⟩
    cases hvalue : args.get? argument with
    | none =>
      rw [hvalue] at hfault
      cases hfault
      exact .missing htype hvalue
    | some value =>
      rw [hvalue] at hfault
      have htext : (some value).bind (argumentText? type) = none := by
        refine (argumentFault?_ne_none_iff name argument).1 fun hnone => ?_
        rw [hnone] at hfault
        cases hfault
      rw [Option.bind_some] at htext
      rw [argumentFault?, htext] at hfault
      cases hfault
      refine .mistyped htype hvalue fun text hrenders => ?_
      rw [argumentText?_eq_some_iff.2 hrenders] at htext
      cases htext

theorem exists_reports_iff :
    (∃ d, Reports name location declared args argument d) ↔ ∃ type, declared.get? argument = some type ∧
      (args.get? argument).bind (argumentText? type) = none := by
  constructor
  · rintro ⟨d, hreports⟩
    obtain ⟨type, htype, hfault⟩ := reports_iff.1 hreports
    refine ⟨type, htype, (argumentFault?_ne_none_iff name argument).1 fun hnone => ?_⟩
    rw [hnone] at hfault
    cases hfault
  · rintro ⟨type, htype, hnone⟩
    obtain ⟨fault, hfault⟩ := Option.ne_none_iff_exists'.1 ((argumentFault?_ne_none_iff name argument).2 hnone)
    exact ⟨_, reports_iff.2 ⟨type, htype, by rw [hfault, Option.map_some]⟩⟩

theorem lookup_bind_eq_some_iff {text : String} :
    (bind declared args).lookup argument = some text ↔ StandsFor name location declared args argument text := by
  rw [lookup_bind, Option.map_eq_some_iff]
  constructor
  · rintro ⟨type, htype, rfl⟩
    cases htext : (args.get? argument).bind (argumentText? type) with
    | none =>
      obtain ⟨d, hreports⟩ := exists_reports_iff.2 ⟨type, htype, htext⟩
      exact .fault hreports
    | some text =>
      obtain ⟨value, hvalue, hrenders⟩ := Option.bind_eq_some_iff.1 htext
      exact .value htype hvalue (argumentText?_eq_some_iff.1 hrenders)
  · intro h
    cases h with
    | value htype hvalue hrenders =>
      refine ⟨_, htype, ?_⟩
      rw [hvalue, Option.bind_some, argumentText?_eq_some_iff.2 hrenders, Option.getD_some]
    | fault hreports =>
      obtain ⟨type, htype, hnone⟩ := exists_reports_iff.1 ⟨_, hreports⟩
      refine ⟨type, htype, ?_⟩
      rw [hnone, Option.getD_none]

end

/-! ### The call -/

/-- The operation that an action becomes: one of the same kind, all texts of which are filled, those of a template's variables one by one under their names. -/
inductive Fills (bound : List (String × String)) : MacroAction → Op → Prop
  | run (command : String) : Fills bound (.run command) (.run (fill bound command))
  | writeFile (path content : String) :
    Fills bound (.writeFile path content) (.writeFile (fill bound path) (fill bound content))
  | appendFile (path content : String) :
    Fills bound (.appendFile path content) (.appendFile (fill bound path) (fill bound content))
  | writeTemplate (path template : String) {vars filled : Table String}
    (hvars : List.Forall₂ (fun entry var => var = (entry.1, fill bound entry.2)) vars.entries filled.entries) :
    Fills bound (.writeTemplate path template vars) (.writeTemplate (fill bound path) (fill bound template) filled)

/-- What the call of a macro comes to: an operation of the same kind for every action, with its placeholders filled by what the arguments stand for, and one finding for every argument at fault, in the order of their names. -/
structure Expands (name location : String) (definition : MacroDefinition) (args : Table Json) (expansion : Expansion) :
    Prop where
  kinds : expansion.ops.map Op.tag = definition.expandsTo.map MacroAction.tag
  ops : ∃ bound : List (String × String),
    (∀ argument text, bound.lookup argument = some text ↔ StandsFor name location definition.args args argument text) ∧
      List.Forall₂ (Fills bound) definition.expandsTo expansion.ops
  diagnostics : ∃ faulty : List String, faulty.Pairwise (· < ·) ∧
    (∀ argument, argument ∈ faulty ↔ ∃ d, Reports name location definition.args args argument d) ∧
      List.Forall₂ (Reports name location definition.args args) faulty expansion.diagnostics

section

variable {manifest : Manifest} {name location : String} {definition : MacroDefinition}

theorem expand_of_known (h : manifest.macros.get? name = some definition) (args : Table Json) :
    expand manifest name args location = ⟨definition.expandsTo.map (instantiate (bind definition.args args)),
      definition.args.entries.filterMap fun entry =>
        (argumentFault? name entry.1 entry.2 (args.get? entry.1)).map fun fault => fault.located location⟩ := by
  rw [expand, h]

theorem fills_instantiate (bound : List (String × String)) (action : MacroAction) :
    Fills bound action (instantiate bound action) := by
  cases action with
  | run command => exact .run command
  | writeFile path content => exact .writeFile path content
  | appendFile path content => exact .appendFile path content
  | writeTemplate path template vars =>
    exact .writeTemplate path template (List.forall₂_map_right_iff.2 (List.forall₂_same.2 fun _ _ => rfl))

theorem tag_instantiate (bound : List (String × String)) (action : MacroAction) :
    (instantiate bound action).tag = action.tag := by
  cases action with
  | _ => rfl

/-- What a walk over the entries of a table finds, entry by entry. -/
theorem forall₂_filterMap {α β : Type} {entries : List (String × α)} {f : String × α → Option β} {R : String → β → Prop}
    (h : ∀ entry ∈ entries, ∀ result, f entry = some result → R entry.1 result) :
    List.Forall₂ R ((entries.filter fun entry => (f entry).isSome).map Prod.fst) (entries.filterMap f) := by
  induction entries with
  | nil => exact .nil
  | cons entry rest ih =>
    obtain ⟨hentry, hrest⟩ := List.forall_mem_cons.1 h
    cases hfound : f entry with
    | none =>
      rw [List.filter_cons_of_neg (by simp [hfound]), List.filterMap_cons_none hfound]
      exact ih hrest
    | some result =>
      rw [List.filter_cons_of_pos (by simp [hfound]), List.filterMap_cons_some hfound, List.map_cons]
      exact .cons (hentry result hfound) (ih hrest)

theorem expands_expand (h : manifest.macros.get? name = some definition) (args : Table Json) :
    Expands name location definition args (expand manifest name args location) := by
  rw [expand_of_known h]
  refine ⟨?_, ⟨_, fun argument text => lookup_bind_eq_some_iff, ?_⟩, ⟨_, ?_, fun argument => ?_, forall₂_filterMap ?_⟩⟩
  · rw [List.map_map]
    exact List.map_congr_left fun action _ => tag_instantiate _ action
  · exact List.forall₂_map_right_iff.2 (List.forall₂_same.2 fun action _ => fills_instantiate _ action)
  · -- the arguments at fault are some of those declared, whose names ascend
    exact List.pairwise_map.2 (definition.args.ascending.sublist List.filter_sublist)
  · simp only [List.mem_map, List.mem_filter, Prod.exists, exists_and_right, exists_eq_right, Option.isSome_map,
      Option.isSome_iff_ne_none, argumentFault?_ne_none_iff, exists_reports_iff, Table.get?_eq_some_iff]
  · rintro ⟨argument, type⟩ hentry d hfault
    exact reports_iff.2 ⟨type, Table.get?_eq_some_iff.2 hentry, hfault⟩

theorem expand_congr (h : manifest.macros.get? name = some definition) {args other : Table Json}
    (hsame : ∀ argument ∈ definition.args.names, args.get? argument = other.get? argument) :
    expand manifest name args location = expand manifest name other location := by
  have hentries : ∀ entry ∈ definition.args.entries, args.get? entry.1 = other.get? entry.1 :=
    fun entry hentry => hsame entry.1 (List.mem_map_of_mem hentry)
  have hbind : bind definition.args args = bind definition.args other := by
    refine List.map_congr_left fun entry hentry => ?_
    dsimp only
    rw [hentries entry hentry]
  rw [expand_of_known h, expand_of_known h, hbind, Expansion.mk.injEq]
  refine ⟨rfl, List.filterMap_congr fun entry hentry => ?_⟩
  rw [hentries entry hentry]

end

/-- What the call of a macro comes to. An unknown macro gives no operations and is the one thing that is reported. A known one gives an operation of the same kind for every action of its body, with every argument at fault as the empty text, and reports exactly the arguments at fault, each of them once and in the order of the names; what it does not declare makes no difference. -/
theorem expand_by_declaration (manifest : Manifest) (name location : String) :
    (manifest.macros.get? name = none → ∀ args, ∃ d, expand manifest name args location = ⟨[], [d]⟩ ∧
      d.code = .unknownMacro ∧ d.path = some location) ∧
    ∀ definition, manifest.macros.get? name = some definition →
      (∀ args, Expands name location definition args (expand manifest name args location)) ∧
      ∀ args other : Table Json, (∀ argument ∈ definition.args.names, args.get? argument = other.get? argument) →
        expand manifest name args location = expand manifest name other location := by
  refine ⟨fun hunknown args => ?_, fun definition hknown => ⟨expands_expand hknown, fun args other => expand_congr hknown⟩⟩
  rw [expand, hunknown]
  exact ⟨_, rfl, rfl, rfl⟩

end Macro

namespace Sample

/-- A macro with an argument of every type. -/
def readmeMacro : MacroDefinition where
  description := none
  args := .ofList [("dir", .path), ("files", .textList), ("meta", .json), ("title", .text)]
  expandsTo := [.run "cat $\x7bfiles...\x7d $\x7bHOME\x7d", .writeFile "$\x7bdir\x7d/meta.json" "$\x7bmeta\x7d",
    .appendFile "$\x7bdir\x7d/log" "$\x7bmeta\x7d$\x7btitle\x7d.",
    .writeTemplate "$\x7bdir\x7d/README.md" "readme-$\x7bdir\x7d"
      (.ofList [("at", "$\x7bdir\x7d/$\x7bdir\x7d"), ("title", "$\x7btitle\x7d$\x7btitle\x7d")])]

/-- A manifest that offers nothing but that macro. -/
def readmeManifest : Manifest where
  id := none
  presetVersion := "1"
  effectsPolicy := ⟨["**"], []⟩
  commands := ⟨[], []⟩
  macros := .ofList [("docs.readme", readmeMacro)]
  semantics := {}

/-- Arguments of which one is missing, one does not fit and one is a number in the place of a path. -/
def readmeArgs : Table Json :=
  .ofList [("dir", .number (.int 7)), ("files", .string "x"), ("meta", .array [])]

theorem macro_readmeManifest :
    readmeManifest.macros.get? "docs.readme" = some readmeMacro ∧ readmeManifest.macros.get? "docs.other" = none := by
  simp [readmeManifest, Table.get?_ofList]

theorem expand_readme :
    (Macro.expand readmeManifest "docs.readme" readmeArgs "s").ops =
      [.run "cat  $\x7bHOME\x7d", .writeFile "7/meta.json" "[]", .appendFile "7/log" "[].",
        .writeTemplate "7/README.md" "readme-7" (.ofList [("at", "7/7"), ("title", "")])] ∧
    (Macro.expand readmeManifest "docs.readme" readmeArgs "s").diagnostics =
      [⟨.macroArgType, "macro 'docs.readme' argument 'files' expects string[], got string", none, some "s"⟩,
        ⟨.missingMacroArg, "macro 'docs.readme' is missing argument 'title'", none, some "s"⟩] := by
  decide +kernel

end Sample

theorem Macro.expand_by_declaration_readme :
    (∃ d, expand Sample.readmeManifest "docs.other" Sample.readmeArgs "s" = ⟨[], [d]⟩ ∧ d.code = .unknownMacro ∧
      d.path = some "s") ∧
    Expands "docs.readme" "s" Sample.readmeMacro Sample.readmeArgs
      (expand Sample.readmeManifest "docs.readme" Sample.readmeArgs "s") ∧
    (expand Sample.readmeManifest "docs.readme" Sample.readmeArgs "s").ops =
      [.run "cat  $\x7bHOME\x7d", .writeFile "7/meta.json" "[]", .appendFile "7/log" "[].",
        .writeTemplate "7/README.md" "readme-7" (.ofList [("at", "7/7"), ("title", "")])] ∧
    (expand Sample.readmeManifest "docs.readme" Sample.readmeArgs "s").diagnostics =
      [⟨.macroArgType, "macro 'docs.readme' argument 'files' expects string[], got string", none, some "s"⟩,
        ⟨.missingMacroArg, "macro 'docs.readme' is missing argument 'title'", none, some "s"⟩] ∧
    expand Sample.readmeManifest "docs.readme" Sample.readmeArgs "s" =
      expand Sample.readmeManifest "docs.readme" (Sample.readmeArgs.insert "other" .null) "s" := by
  obtain ⟨hunknown, -⟩ := expand_by_declaration Sample.readmeManifest "docs.other" "s"
  obtain ⟨-, hknown⟩ := expand_by_declaration Sample.readmeManifest "docs.readme" "s"
  obtain ⟨hexpands, hsame⟩ := hknown Sample.readmeMacro Sample.macro_readmeManifest.1
  refine ⟨hunknown Sample.macro_readmeManifest.2 _, hexpands _, Sample.expand_readme.1, Sample.expand_readme.2,
    hsame _ _ fun argument hargument => ?_⟩
  have hother : argument ≠ "other" := by
    rintro rfl
    exact absurd hargument (by decide)
  rw [Table.get_insert, if_neg hother]

end GuardedPlan
