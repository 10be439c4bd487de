import GuardedPlan.Compile
import GuardedPlan.Policy.Command

/-!
# Preflight

Before anything is applied, a plan is judged again: its language, its target, the preset it was compiled for, and every path it writes and every command it runs, in operations and in checks, however late in the plan. A plan is rejected with all of its problems at once.
-/

namespace GuardedPlan

/-- Something in a step that its manifest does not permit. -/
inductive Problem where
  | write (step path : String) (violation : WriteViolation)
  | command (step command : String) (violation : CommandViolation)
deriving DecidableEq, Repr

namespace Problem

def writeText (path : String) : WriteViolation → String
  | .escapes => "write '" ++ path ++ "' escapes the working directory"
  | .outside => "write '" ++ path ++ "' matches no allowed glob"
  | .denied glob => "write '" ++ path ++ "' matches denied glob '" ++ glob ++ "'"
  | .outOfScope => "write '" ++ path ++ "' is outside the write scopes"

def commandText (command : String) : CommandViolation → String
  | .notAllowed token => "command '" ++ command ++ "': '" ++ token ++ "' is not an allowed prefix"
  | .deniedSubstring needle => "command '" ++ command ++ "' contains denied '" ++ needle ++ "'"

def message : Problem → String
  | write step path violation => "step '" ++ step ++ "': " ++ writeText path violation
  | command step line violation => "step '" ++ step ++ "': " ++ commandText line violation

end Problem

/-- The commands of a step: those of its operations and then those of its checks. -/
def Step.commands (step : Step) : List String :=
  step.ops.filterMap Op.command? ++ step.checks.filterMap Check.command?

def Step.targets (step : Step) : List String :=
  step.ops.filterMap Op.target?

def Step.problems (step : Step) (writes : WritePolicy) (commands : CommandsPolicy) : List Problem :=
  (step.targets.flatMap fun path => (writes.violations path).map (.write step.id path)) ++
    step.commands.flatMap fun command => (commands.violations command).map (.command step.id command)

/-- Why a plan is not applied at all. -/
inductive Rejection where
  | language (found : String)
  | target (finding : Diagnostic)
  | preset (compiled target current : String)
  | glob (bad : BadGlob)
  | problems (found : List Problem)
deriving DecidableEq, Repr

def Rejection.message : Rejection → String
  | language found => "unsupported plan language '" ++ found ++ "' (expected '" ++ Plan.language ++ "')"
  | target finding => finding.display
  | preset compiled name current =>
    "plan was compiled for preset " ++ compiled ++ " of '" ++ name ++ "', registry has " ++ current
  | glob bad => "invalid manifest write glob: " ++ bad.message
  | problems found => "; ".intercalate (found.map Problem.message)

namespace Plan

def problems (plan : Plan) (writes : WritePolicy) (commands : CommandsPolicy) : List Problem :=
  plan.steps.flatMap fun step => step.problems writes commands

def preflight (plan : Plan) (lookup : ManifestLookup) : Except Rejection Manifest :=
  if plan.lang ≠ language then .error (.language plan.lang)
  else
    match Manifest.resolve lookup plan.target with
    | .error finding => .error (.target finding)
    | .ok manifest =>
      if manifest.presetVersion ≠ plan.presetVersion then
        .error (.preset plan.presetVersion plan.target manifest.presetVersion)
      else
        match manifest.writePolicy with
        | .error bad => .error (.glob bad)
        | .ok writes =>
          match plan.problems writes manifest.commands with
          | [] => .ok manifest
          | found => .error (.problems found)

end Plan

end GuardedPlan
