import GuardedPlan.Path
import GuardedPlan.Table

/-!
# Stack manifests

A manifest says what a target permits and how it does things: which paths may be written, which commands may run, the macros it offers and how routes map onto files.
-/

namespace GuardedPlan

/-- The globs that say which paths may be written. -/
structure EffectsPolicy where
  allowWrite : List String
  denyWrite : List String
deriving DecidableEq, Repr

/-- The leading tokens and substrings that say which commands may run. -/
structure CommandsPolicy where
  allowPrefixes : List String
  denySubstrings : List String
deriving DecidableEq, Repr

inductive ArgumentType where
  | path
  | text
  | textList
  | json
deriving DecidableEq, Repr

namespace ArgumentType

def name : ArgumentType → String
  | path => "path"
  | text => "string"
  | textList => "string[]"
  | json => "json"

def named : List (String × ArgumentType) :=
  [("path", path), ("string", text), ("string[]", textList), ("json", json)]

end ArgumentType

/-- An action of a macro body, whose texts may hold placeholders. -/
inductive MacroAction where
  | run (command : String)
  | writeFile (path content : String)
  | appendFile (path content : String)
  | writeTemplate (path template : String) (vars : Table String)
deriving DecidableEq, Repr

/-- A typed sequence of actions. -/
structure MacroDefinition where
  description : Option String
  args : Table ArgumentType
  expandsTo : List MacroAction
deriving DecidableEq, Repr

/-- How routes map onto files: one page file a route, or one table that quotes every route. -/
inductive Routing where
  | fileBased (pagesDirectory pageFile : String)
  | routerTable (routesFile : String)
deriving DecidableEq, Repr

namespace Routing

def macroName : Routing → String
  | fileBased .. => "routing.page"
  | routerTable _ => "routing.table"

def pagePath (pagesDirectory pageFile appDirectory route : String) : String :=
  Path.join ([appDirectory, pagesDirectory] ++ (Path.segments route).filter (· ≠ "") ++ [pageFile])

end Routing

/-- The conventions of a stack. -/
structure Semantics where
  projectManifest : String := "package.json"
  routing : Option Routing := none
deriving DecidableEq, Repr

structure Manifest where
  id : Option String
  presetVersion : String
  effectsPolicy : EffectsPolicy
  commands : CommandsPolicy
  macros : Table MacroDefinition
  semantics : Semantics
deriving DecidableEq, Repr

namespace Manifest

def scaffoldMacro : String := "stack.scaffold"

def librarySetupMacro : String := "ui.setup"

def hasMacro (manifest : Manifest) (name : String) : Bool :=
  (manifest.macros.get? name).isSome

/-- The macro that routes need, if the manifest offers it. -/
def routingMacro? (manifest : Manifest) : Option String :=
  manifest.semantics.routing.map Routing.macroName

end Manifest

end GuardedPlan
