import GuardedPlan.Decision.Basic

/-!
# Specs

A spec says what is to be built for a target. Version 1 may leave out its steps; version 2 lists them and adds intent, documentation, effects, artifacts, assumptions and decisions. Actions and ensures of a step stay raw values here, so that each one that cannot be read becomes a finding of its own.
-/

namespace GuardedPlan

structure Project where
  name : String
  description : Option String
deriving DecidableEq, Repr

structure ComponentLibrary where
  library : String
  components : List String
deriving DecidableEq, Repr

structure AuthoredStep where
  id : String
  requires : List String
  actions : List Json
  ensures : List Json
  claims : List String
  decisions : List String
deriving Repr

/-- A property that the steps claim to uphold. -/
structure Invariant where
  id : String
  text : String
deriving DecidableEq, Repr

structure Intent where
  summary : String
  invariants : List Invariant
  nonGoals : List String
deriving DecidableEq, Repr

structure SectionDemand where
  path : String
  title : String
deriving DecidableEq, Repr

/-- How an expected text is looked for. -/
inductive MatchMode where
  | literal
  | fuzzy
deriving DecidableEq, Repr

/-- A text that a document has to hold. -/
structure TextDemand where
  path : String
  text : String
  mode : MatchMode
  threshold : Option Binary64
  gate : Option Bool
deriving DecidableEq, Repr

/-- The documentation section. -/
structure Docs where
  requiredFiles : List String
  sections : List SectionDemand
  expect : List TextDemand
deriving DecidableEq, Repr

/-- How far writes may reach: into the spec's own scopes only, or wherever the manifest allows. -/
inductive Reach where
  | explicit
  | manifest
deriving DecidableEq, Repr

structure Effects where
  writeScopes : List String
  expansion : Reach
deriving DecidableEq, Repr

/-- A file that has to exist in the end, and perhaps has to be written by a step. -/
structure Artifact where
  path : String
  mustWrite : Bool
deriving DecidableEq, Repr

/-- How far an assumption was looked into. -/
inductive AssumptionStatus where
  | verified
  | unverified
deriving DecidableEq, Repr

/-- Something the spec takes for granted. -/
structure Assumption where
  id : String
  text : String
  status : AssumptionStatus
deriving DecidableEq, Repr

structure Spec where
  version : Nat
  target : String
  project : Project
  workspace : Option String
  ui : Option ComponentLibrary
  routes : List String
  gates : Option (List String)
  steps : Option (List AuthoredStep)
  intent : Option Intent
  docs : Option Docs
  effects : Option Effects
  artifacts : Option (List Artifact)
  assumptions : List Assumption
  decisions : List Decision
deriving Repr

namespace Spec

/-- Whether steps, claims and decisions are held to the rules of version 2. -/
def isCurrent (spec : Spec) : Bool :=
  2 ≤ spec.version

/-- The directory of the application, `app` unless the spec names one. -/
def appDirectory (spec : Spec) : String :=
  spec.workspace.getD "app"

def invariants (spec : Spec) : List Invariant :=
  match spec.intent with
  | some intent => intent.invariants
  | none => []

/-- The declared write scopes, unless there are none. -/
def writeScopes (spec : Spec) : Option (List String) :=
  match spec.effects with
  | some effects => if effects.writeScopes.isEmpty then none else some effects.writeScopes
  | none => none

/-- Whether writes are confined to the spec's own scopes. -/
def isExplicit (spec : Spec) : Bool :=
  match spec.effects with
  | some effects => effects.expansion = .explicit
  | none => false

end Spec

end GuardedPlan
