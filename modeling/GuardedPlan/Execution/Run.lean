import GuardedPlan.Execution.Operation
import GuardedPlan.Execution.Preflight
import GuardedPlan.Execution.Verdict

/-!
# Executing plans

A plan that passes preflight runs its steps in order, in each step first the operations and then the checks. The first failure ends the run; nothing is rolled back.
-/

namespace GuardedPlan

inductive StepFault where
  | op (tag : String) (fault : OpFault)
  | unevaluated (kind : String) (fault : CheckFault)
  | shortfall (kind : String) (found : Shortfall)
deriving DecidableEq, Repr

def StepFault.message : StepFault → String
  | op tag fault => tag ++ " failed: " ++ fault.message
  | unevaluated kind fault => "check " ++ kind ++ " errored: " ++ fault.message
  | shortfall kind found => "check " ++ kind ++ " failed: " ++ found.message

/-- Why an execution does not complete. -/
inductive Failure where
  | rejected (rejection : Rejection)
  | stopped (step : String) (fault : StepFault)
deriving DecidableEq, Repr

def Failure.message : Failure → String
  | rejected rejection => "plan rejected: " ++ rejection.message
  | stopped step fault => "step '" ++ step ++ "' failed: " ++ fault.message

variable {σ : Type}

/-- Attempts an item. It comes to the fault that stops the run or, where the run goes on, to the shortfall that is only reported, if there is one. -/
def Item.attempt (item : Item) (host : Host σ) (target : String) (manifest : Manifest) (world : World σ) :
    Except StepFault (Option Shortfall) × World σ :=
  match item with
  | .op action =>
    match action.apply host target world with
    | (.ok (), world) => (.ok none, world)
    | (.error fault, world) => (.error (.op action.tag fault), world)
  | .check proof =>
    match proof.evaluate host manifest world with
    | (.error fault, world) => (.error (.unevaluated proof.kind fault), world)
    | (.ok .pass, world) => (.ok none, world)
    | (.ok (.warn found), world) => (.ok (some found), world)
    | (.ok (.fail found), world) => (.error (.shortfall proof.kind found), world)

theorem Item.logsOnly_attempt (item : Item) (host : Host σ) (target : String) (manifest : Manifest)
    (world : World σ) : world.LogsOnly item.command? (item.attempt host target manifest world).2 := by
  cases item with
  | op action =>
    have happly := action.logsOnly_apply host target world
    rw [attempt]
    cases happlied : action.apply host target world with
    | mk result after =>
      rw [happlied] at happly
      cases result with
      | error fault => exact happly
      | ok done => exact happly
  | check proof =>
    have hevaluate := proof.logsOnly_evaluate host manifest world
    rw [attempt]
    cases hevaluated : proof.evaluate host manifest world with
    | mk result after =>
      rw [hevaluated] at hevaluate
      cases result with
      | error fault => exact hevaluate
      | ok verdict =>
        cases verdict with
        | pass => exact hevaluate
        | warn found => exact hevaluate
        | fail found => exact hevaluate

/-- A way to attempt items, whatever files and commands it works on. It logs nothing but the commands of the items. -/
structure Performer (σ : Type) where
  attempt : Item → World σ → Except StepFault (Option Shortfall) × World σ
  logsOnly_attempt : ∀ (item : Item) (world : World σ), world.LogsOnly item.command? (attempt item world).2

/-- A host at work for a plan with a target and a manifest. -/
def Host.performer (host : Host σ) (target : String) (manifest : Manifest) : Performer σ where
  attempt item world := item.attempt host target manifest world
  logsOnly_attempt item world := item.logsOnly_attempt host target manifest world

theorem Host.performer_attempt (host : Host σ) (target : String) (manifest : Manifest) (item : Item) (world : World σ) :
    (host.performer target manifest).attempt item world = item.attempt host target manifest world := rfl

def World.report (world : World σ) (step : String) (shortfall : Option Shortfall) : World σ :=
  match shortfall with
  | some found => world.record (.warned step found.message)
  | none => world

/-- Attempts items of a step in order up to the first that fails. -/
def performAll (performer : Performer σ) (step : String) : List Item → World σ → Except StepFault Unit × World σ
  | [], world => (.ok (), world)
  | item :: rest, world =>
    match performer.attempt item (world.record (.attempted step item)) with
    | (.error fault, world) => (.error fault, world)
    | (.ok shortfall, world) => performAll performer step rest ((world.report step shortfall).record (.finished step item))

/-- Runs steps in order up to the first that fails, and counts them. -/
def runSteps (performer : Performer σ) : List Step → World σ → Except Failure Nat × World σ
  | [], world => (.ok 0, world)
  | step :: rest, world =>
    match performAll performer step.id step.items (world.record (.began step.id)) with
    | (.error fault, world) => (.error (.stopped step.id fault), world)
    | (.ok (), world) =>
      match runSteps performer rest world with
      | (.ok count, world) => (.ok (count + 1), world)
      | (.error failure, world) => (.error failure, world)

/-- Judges a plan and then runs it; the result is the number of steps that ran. -/
def Plan.execute (plan : Plan) (host : Host σ) (world : World σ) : Except Failure Nat × World σ :=
  match plan.preflight (host.registry.manifests world.tree) with
  | .error rejection => (.error (.rejected rejection), world)
  | .ok manifest => runSteps (host.performer plan.target manifest) plan.steps world

end GuardedPlan
