import GuardedPlan.Repository.Pathspec

/-!
# Tracked files

The list of files that version control tracks, as clean paths from the top of the work tree, seen from a directory in it. Paths are given and listed relative to that directory.
-/

namespace GuardedPlan

/-- The files that version control tracks, and the directory below the top from which they are seen. -/
structure TrackedFiles where
  paths : List String
  directory : List String := []
deriving DecidableEq, Repr

namespace TrackedFiles

/-- The path of a file as it is written in a directory, both given by their names from the top. -/
def relative : List String → List String → List String
  | [], file => file
  | here :: directory, name :: file =>
    if here = name then relative directory file else ((here :: directory).map fun _ => "..") ++ name :: file
  | directory, [] => directory.map fun _ => ".."

/-- The tracked files that a path specification selects, in ascending order. -/
def below (tracked : TrackedFiles) (top specification : String) : Except PathspecFault (List String) := do
  let spec ← Pathspec.read specification
  match spec.target? tracked.directory with
  | none => .error (.outside specification (String.ofList spec.path) top)
  | some target =>
    let found := (tracked.paths.filter (spec.selects target)).map fun file =>
      "/".intercalate (relative tracked.directory (Path.segments file))
    return found.mergeSort fun a b => decide (a ≤ b)

end TrackedFiles

end GuardedPlan
