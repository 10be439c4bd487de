import GuardedPlan.Glob.Basic
import GuardedPlan.Manifest.Basic

/-!
# Write policies

Which paths may be written: those inside the working directory that an allowing glob matches, that no denying glob matches and that lie inside the scopes of the spec, if it has any. The compiler and the executor judge by the same policy.
-/

namespace GuardedPlan

inductive WriteViolation where
  | escapes
  | outside
  | denied (glob : String)
  | outOfScope
deriving DecidableEq, Repr

/-- The globs that allow, deny and confine writes. -/
structure WritePolicy where
  allow : List Glob
  deny : List Glob
  scopes : Option (List Glob)
deriving Repr

namespace WritePolicy

def ofEffects (effects : EffectsPolicy) : Except BadGlob WritePolicy := do
  let allow ← Glob.parseAll effects.allowWrite
  let deny ← Glob.parseAll effects.denyWrite
  return ⟨allow, deny, none⟩

def confined (policy : WritePolicy) (scopes : List String) : Except BadGlob WritePolicy := do
  let scopes ← Glob.parseAll scopes
  return { policy with scopes := some scopes }

def violations (policy : WritePolicy) (path : String) : List WriteViolation :=
  if Path.isContained path then
    let path := Path.normalize path
    (if Glob.anyAccepts policy.allow path then [] else [.outside]) ++
      (policy.deny.filter fun glob => glob.accepts path).map (fun glob => .denied glob.source) ++
      (match policy.scopes with
        | some scopes => if Glob.anyAccepts scopes path then [] else [.outOfScope]
        | none => [])
  else [.escapes]

end WritePolicy

end GuardedPlan
