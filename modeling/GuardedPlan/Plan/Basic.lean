import GuardedPlan.Number.Binary64
import GuardedPlan.Table

/-!
# Plans

A plan is the compiled, immutable program for one target: steps in the order in which they run, each with operations and then the checks that prove them. A fuzzy check that does not gate only warns.
-/

namespace GuardedPlan

/-- A primitive operation. -/
inductive Op where
  | run (command : String)
  | writeFile (path content : String)
  | appendFile (path content : String)
  | writeTemplate (path template : String) (vars : Table String)
deriving DecidableEq, Repr

namespace Op

def target? : Op → Option String
  | run _ => none
  | writeFile path _ => some path
  | appendFile path _ => some path
  | writeTemplate path _ _ => some path

def command? : Op → Option String
  | run command => some command
  | _ => none

def tag : Op → String
  | run _ => "RUN"
  | writeFile .. => "WRITE_FILE"
  | appendFile .. => "APPEND_FILE"
  | writeTemplate .. => "WRITE_TEMPLATE"

end Op

/-- A proof obligation, evaluated after the operations of its step. -/
inductive Check where
  | fileExists (path : String)
  | fileContains (path text : String)
  | routeExists (directory route : String)
  | commandSucceeds (command : String)
  | trackedOnly (directory glob : String) (allow : List String)
  | docSection (path title : String)
  | docContains (path text : String)
  | docResembles (path text : String) (threshold : Binary64) (gate : Bool)
  | artifactExists (path : String)
deriving DecidableEq, Repr

namespace Check

def command? : Check → Option String
  | commandSucceeds command => some command
  | _ => none

def kind : Check → String
  | fileExists _ => "file.exists"
  | fileContains .. => "file.contains"
  | routeExists .. => "route.exists"
  | commandSucceeds _ => "cmd.ok"
  | trackedOnly .. => "git.trackedOnly"
  | docSection .. => "doc.section"
  | docContains .. => "doc.contains"
  | docResembles .. => "doc.contains_fuzzy"
  | artifactExists _ => "artifact.exists"

/-- The threshold of a fuzzy expectation that sets none, eight tenths. -/
def defaultThreshold : Binary64 :=
  (Binary64.ofRatio? false 8 10).getD (Binary64.zero false)

end Check

/-- A step: what it requires is advice only, since steps run in the order of the list. -/
structure Step where
  id : String
  requires : List String := []
  ops : List Op := []
  checks : List Check := []
  claims : List String := []
  decisions : List String := []
deriving DecidableEq, Repr

def Step.hasOps (step : Step) : Bool :=
  !step.ops.isEmpty

structure Plan where
  lang : String
  target : String
  presetVersion : String
  specHash : String
  steps : List Step
deriving DecidableEq, Repr

def Plan.language : String := "webspec.plan/v1"

end GuardedPlan
