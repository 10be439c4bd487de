import GuardedPlan.Plan.Authored
import GuardedPlan.Plan.Standard

/-!
# Building the steps of a plan

A spec with steps is planned as written, one without gets the standard program. Either way a last step without operations checks the documentation and the artifacts, if they ask for anything.
-/

namespace GuardedPlan

def TextDemand.check (demand : TextDemand) : Check :=
  match demand.mode with
  | .literal => .docContains demand.path demand.text
  | .fuzzy =>
    .docResembles demand.path demand.text (demand.threshold.getD Check.defaultThreshold) (demand.gate.getD true)

def Docs.checks (docs : Docs) : List Check :=
  docs.requiredFiles.map .fileExists ++ docs.sections.map (fun demand => .docSection demand.path demand.title) ++
    docs.expect.map TextDemand.check

namespace Spec

/-- The checks that documentation and artifacts ask for, in the order of declaration. -/
def verificationChecks (spec : Spec) : List Check :=
  (match spec.docs with
    | some docs => docs.checks
    | none => []) ++
  (match spec.artifacts with
    | some required => required.map fun artifact => .artifactExists artifact.path
    | none => [])

def draft (spec : Spec) (manifest : Manifest) : Draft :=
  let built := match spec.steps with
    | some steps => Draft.ofAuthored manifest spec.appDirectory steps
    | none => Standard.draft spec manifest
  match spec.verificationChecks with
  | [] => built
  | checks => built.chain { id := "verify_docs", checks := checks }

end Spec

end GuardedPlan
