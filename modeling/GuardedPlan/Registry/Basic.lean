import GuardedPlan.Compile
import GuardedPlan.FileTree.Basic

/-!
# Registries

A registry knows the manifest of each target and the templates that come with it. It may keep them in the file tree, so it looks at a tree whenever it is asked.
-/

namespace GuardedPlan

/-- A source of manifests and templates; errors are texts. -/
structure Registry where
  manifests : FileTree → ManifestLookup
  template : FileTree → (target path : String) → Except String String

/-- A registry that holds its manifests and templates itself, a template under its target and its path. -/
def Registry.ofTables (manifests : Table Json) (templates : Table (Table String)) : Registry where
  manifests _ target := .ok (manifests.get? target)
  template _ target path :=
    match (templates.get? target).bind fun sources => sources.get? path with
    | some source => .ok source
    | none => .error ("template '" ++ path ++ "' not found for target '" ++ target ++ "'")

end GuardedPlan
