import GuardedPlan.Diagnostic
import GuardedPlan.Plan.Basic

/-!
# Drafts

The steps of a plan before the guardrails have seen them, with the findings made while they were put together.
-/

namespace GuardedPlan

/-- Steps and the findings made while building them. -/
structure Draft where
  steps : List Step
  diagnostics : List Diagnostic

namespace Draft

/-- Adds a step that requires the one before it, if there is one. -/
def chain (draft : Draft) (step : Step) : Draft :=
  match draft.steps.getLast? with
  | some last => { draft with steps := draft.steps ++ [{ step with requires := [last.id] }] }
  | none => { draft with steps := draft.steps ++ [step] }

/-- Adds a step in the same way, if there is one to add, and findings. -/
def extend (draft : Draft) (step : Option Step) (diagnostics : List Diagnostic) : Draft :=
  let draft := { draft with diagnostics := draft.diagnostics ++ diagnostics }
  match step with
  | some step => draft.chain step
  | none => draft

end Draft

end GuardedPlan
