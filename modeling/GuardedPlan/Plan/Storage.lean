import GuardedPlan.Document
import GuardedPlan.FileTree.Basic

/-!
# Stored plans

A plan is stored in its canonical text, and checked against the schema of plans again when it is read.
-/

namespace GuardedPlan

inductive PlanLoadFault where
  | reading (path : String) (fault : FileFault)
  | notJson (path : String)
  | invalid (path : String) (fault : Plan.Fault)

def PlanLoadFault.message : PlanLoadFault → String
  | reading path fault => "read plan " ++ path ++ ": " ++ fault.message
  | notJson path => "parse plan " ++ path ++ ": invalid JSON"
  | invalid path fault => "validate plan " ++ path ++ ": " ++ fault.message

inductive PlanSaveFault where
  | makingDirectory (path : String) (fault : FileFault)
  | writing (path : String) (fault : FileFault)
deriving DecidableEq, Repr

def PlanSaveFault.message : PlanSaveFault → String
  | makingDirectory path fault => "create directory " ++ path ++ ": " ++ fault.message
  | writing path fault => "write plan " ++ path ++ ": " ++ fault.message

namespace Plan

def ofText (path text : String) : Except PlanLoadFault Plan :=
  match Json.parse? text with
  | none => .error (.notJson path)
  | some value => (ofJson value).mapError (.invalid path)

def load (tree : FileTree) (path : String) : Except PlanLoadFault Plan :=
  match tree.readText path with
  | .error fault => .error (.reading path fault)
  | .ok text => ofText path text

/-- Stores a plan at a path and makes the directories it needs. -/
def save (plan : Plan) (tree : FileTree) (path : String) : Except PlanSaveFault Unit × FileTree :=
  let parent := (Path.parent? path).getD ""
  match tree.makeDirectories parent with
  | (.error fault, tree) => (.error (.makingDirectory parent fault), tree)
  | (.ok (), tree) =>
    match tree.write path plan.canonicalText.toUTF8 with
    | .ok tree => (.ok (), tree)
    | .error fault => (.error (.writing path fault), tree)

end Plan

end GuardedPlan
