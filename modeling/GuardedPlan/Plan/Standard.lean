import GuardedPlan.Expansion
import GuardedPlan.Plan.Draft
import GuardedPlan.Spec.Basic

/-!
# The standard program

A spec of version 1 that lists no steps gets the same program every time: mark the workspace, scaffold the project, set up the component library, make the routes and run the quality gates. Each step requires the one before it. What the manifest has no means for is left out, with a finding unless it is the component library.
-/

namespace GuardedPlan.Standard

def projectMarker : String := ".webspec/project.json"

def targetMarker : String := ".webspec/target"

/-- The directory that must never be committed. -/
def cacheDirectory : String := ".webspec/cache/"

def missingMacro (name purpose : String) : Diagnostic :=
  (⟨.missingMacro, "target does not define the '" ++ name ++ "' macro required for " ++ purpose, none, none⟩ :
    Diagnostic).located ("macros." ++ name)

def markerText (spec : Spec) : String :=
  (Json.object
    [("description", match spec.project.description with
        | some text => .string text
        | none => .null),
      ("dir", .string spec.appDirectory), ("name", .string spec.project.name), ("target", .string spec.target)]).pretty
    ++ "\n"

def initStep (spec : Spec) : Step where
  id := "init"
  ops :=
    [.writeFile projectMarker (markerText spec), .writeFile targetMarker (spec.target ++ "\n"),
      .appendFile ".gitignore" (cacheDirectory ++ "\n")]
  checks := [.fileExists projectMarker, .trackedOnly "." (cacheDirectory ++ "**") []]

/-- The step that a part of the program adds, if any, and its findings. -/
abbrev Part := Option Step × List Diagnostic

def macroStep (manifest : Manifest) (id name : String) (calls : List (Table Json)) (checks : List Check) : Part :=
  let expansions := calls.map fun args => Macro.expand manifest name args ("program." ++ id)
  (some { id := id, ops := expansions.flatMap Expansion.ops, checks := checks },
    expansions.flatMap Expansion.diagnostics)

def projectManifest (spec : Spec) (manifest : Manifest) : String :=
  Path.join [spec.appDirectory, manifest.semantics.projectManifest]

def scaffold (spec : Spec) (manifest : Manifest) : Part :=
  if manifest.hasMacro Manifest.scaffoldMacro then
    macroStep manifest "scaffold_web" Manifest.scaffoldMacro
      [.ofList [("dir", .string spec.appDirectory), ("name", .string spec.project.name)]]
      [.fileExists (projectManifest spec manifest)]
  else (none, [missingMacro Manifest.scaffoldMacro "scaffolding"])

def librarySetup (spec : Spec) (manifest : Manifest) : Part :=
  match spec.ui with
  | none => (none, [])
  | some ui =>
    if manifest.hasMacro Manifest.librarySetupMacro then
      macroStep manifest "setup_ui" Manifest.librarySetupMacro
        [.ofList [("dir", .string spec.appDirectory), ("library", .string ui.library),
          ("components", Json.strings ui.components)]]
        [.fileContains (projectManifest spec manifest) ui.library]
    else (none, [])

/-- The arguments of each call of the macro that makes the routes exist. -/
def routeCalls (spec : Spec) : Routing → List (Table Json)
  | .fileBased pagesDirectory pageFile =>
    spec.routes.map fun route =>
      .ofList [("dir", .string spec.appDirectory), ("route", .string route),
        ("file", .string (Routing.pagePath pagesDirectory pageFile spec.appDirectory route))]
  | .routerTable routesFile =>
    [.ofList [("dir", .string spec.appDirectory), ("routes", Json.strings spec.routes),
      ("file", .string (Path.join [spec.appDirectory, routesFile]))]]

def routes (spec : Spec) (manifest : Manifest) : Part :=
  if spec.routes.isEmpty then (none, [])
  else
    match manifest.semantics.routing with
    | none =>
      (none, [(⟨.missingMacro, "spec declares routes but target '" ++ spec.target ++ "' has no routing semantics",
        none, none⟩ : Diagnostic).located "routes"])
    | some routing =>
      if manifest.hasMacro routing.macroName then
        macroStep manifest "routes" routing.macroName (routeCalls spec routing)
          (spec.routes.map fun route => .routeExists spec.appDirectory route)
      else (none, [missingMacro routing.macroName "routes"])

def gates (spec : Spec) : Part :=
  match spec.gates with
  | none => (none, [])
  | some [] => (none, [])
  | some gates => (some { id := "quality_gates", ops := gates.map .run, checks := gates.map .commandSucceeds }, [])

def draft (spec : Spec) (manifest : Manifest) : Draft :=
  [scaffold spec manifest, librarySetup spec manifest, routes spec manifest, gates spec].foldl
    (fun draft part => draft.extend part.1 part.2) ⟨[initStep spec], []⟩

end GuardedPlan.Standard
