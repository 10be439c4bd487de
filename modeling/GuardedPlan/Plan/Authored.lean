import GuardedPlan.Expansion
import GuardedPlan.Plan.Draft
import GuardedPlan.Spec.Basic
import GuardedPlan.Spec.Obligation

/-!
# Steps as authored

Every authored step becomes one step of the plan. An action becomes one operation, or as many as its macro has; an ensure becomes one check. What cannot be read adds nothing to the step and is a finding at its own place.
-/

namespace GuardedPlan

/-- The operations of an action that stands at a location. -/
def Action.expansion (manifest : Manifest) (location : String) : Action → Expansion
  | run command => ⟨[.run command], []⟩
  | writeFile path _ (some template) vars => ⟨[.writeTemplate path template vars], []⟩
  | writeFile path (some content) none _ => ⟨[.writeFile path content], []⟩
  | writeFile path none none _ =>
    ⟨[], [(⟨.writeFileNoContent, "writeFile '" ++ path ++ "' has neither content nor template", none, none⟩ :
      Diagnostic).located location]⟩
  | appendFile path content => ⟨[.appendFile path content], []⟩
  | expand name args => Macro.expand manifest name args location

def Ensure.check (appDirectory : String) : Ensure → Check
  | fileExists path => .fileExists path
  | fileContains path text => .fileContains path text
  | routeExists route => .routeExists appDirectory route
  | commandSucceeds command => .commandSucceeds command
  | trackedOnly directory glob allow => .trackedOnly directory glob allow
  | docSection path title => .docSection path title
  | docContains path text => .docContains path text
  | docResembles path text threshold gate =>
    .docResembles path text (threshold.getD Check.defaultThreshold) (gate.getD true)
  | artifactExists path => .artifactExists path

namespace AuthoredStep

/-- The place of an entry of a list inside a step. -/
def place (index : Nat) (list : String) (entry : Nat) : String :=
  "steps[" ++ toString index ++ "]." ++ list ++ "[" ++ toString entry ++ "]"

def actionExpansion (manifest : Manifest) (id location : String) (raw : Json) : Expansion :=
  match Action.decode raw with
  | .ok action => action.expansion manifest location
  | .error fault =>
    ⟨[], [((⟨.unknownAction, "step '" ++ id ++ "' has an unrecognized action: " ++ fault.message, none, none⟩ :
      Diagnostic).located location).advising "actions are one of run, writeFile, appendFile, macro"]⟩

/-- The check of a raw ensure, or what is wrong with it. -/
def ensureCheck (appDirectory id location : String) (raw : Json) : Except Diagnostic Check :=
  match Ensure.decode raw with
  | .ok ensure => .ok (ensure.check appDirectory)
  | .error fault =>
    .error ((⟨.unknownEnsure, "step '" ++ id ++ "' has an unrecognized ensure: " ++ fault.message, none, none⟩ :
      Diagnostic).located location)

def kept? : Except Diagnostic Check → Option Check
  | .ok check => some check
  | .error _ => none

def finding? : Except Diagnostic Check → Option Diagnostic
  | .ok _ => none
  | .error fault => some fault

/-- The expansions of the actions of the step at an index. -/
def expansions (manifest : Manifest) (index : Nat) (step : AuthoredStep) : List Expansion :=
  step.actions.zipIdx.map fun (raw, entry) => actionExpansion manifest step.id (place index "actions" entry) raw

/-- The checks of the ensures of the step at an index. -/
def ensureChecks (appDirectory : String) (index : Nat) (step : AuthoredStep) : List (Except Diagnostic Check) :=
  step.ensures.zipIdx.map fun (raw, entry) => ensureCheck appDirectory step.id (place index "ensures" entry) raw

/-- The step of the plan for the authored step at an index. -/
def planned (manifest : Manifest) (appDirectory : String) (index : Nat) (step : AuthoredStep) : Step where
  id := step.id
  requires := step.requires
  ops := (step.expansions manifest index).flatMap Expansion.ops
  checks := (step.ensureChecks appDirectory index).filterMap kept?
  claims := step.claims
  decisions := step.decisions

/-- The findings made while planning the authored step at an index. -/
def findings (manifest : Manifest) (appDirectory : String) (index : Nat) (step : AuthoredStep) : List Diagnostic :=
  (step.expansions manifest index).flatMap Expansion.diagnostics ++
    (step.ensureChecks appDirectory index).filterMap finding?

end AuthoredStep

def Draft.ofAuthored (manifest : Manifest) (appDirectory : String) (steps : List AuthoredStep) : Draft where
  steps := steps.zipIdx.map fun (step, index) => step.planned manifest appDirectory index
  diagnostics := steps.zipIdx.flatMap fun (step, index) => step.findings manifest appDirectory index

end GuardedPlan
