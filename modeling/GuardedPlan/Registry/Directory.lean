import GuardedPlan.Registry.Basic

/-!
# Registries in a directory

Each target has a directory of its own, directly below the root of the registry. It holds the manifest, in one of three files, and a directory of templates. A target is named by one path segment that cannot lead out of the root.
-/

namespace GuardedPlan

/-- Why a registry in a directory does not answer. -/
inductive RegistryFault where
  | badTarget (target : String)
  | badTemplate (path : String)
  | reading (path : String) (fault : FileFault)
  | readingTemplate (path : String) (fault : FileFault)
  | parsing (path : String) (fault : Document.Fault)
deriving DecidableEq, Repr

def RegistryFault.message : RegistryFault → String
  | badTarget target => "invalid target id '" ++ target ++ "'"
  | badTemplate path =>
    "template path '" ++ path ++ "' must be relative and stay inside the templates directory"
  | reading path fault => "read " ++ path ++ ": " ++ fault.message
  | readingTemplate path fault => "read template " ++ path ++ ": " ++ fault.message
  | parsing path fault => "parse " ++ path ++ ": " ++ fault.message

/-- A registry by the path of its root. -/
structure DirectoryRegistry where
  root : String
deriving DecidableEq, Repr

namespace DirectoryRegistry

/-- Whether a target is one segment that stays where it is. -/
def isTarget (target : String) : Bool :=
  Path.isContained target && !target.toList.contains '/' && !target.toList.contains '\\'

def targetDirectory (registry : DirectoryRegistry) (target : String) : Except RegistryFault String :=
  if isTarget target then .ok (Path.below registry.root target) else .error (.badTarget target)

/-- The names a manifest may have; the first that is there counts. -/
def manifestNames : List String :=
  ["manifest.json", "manifest.yaml", "manifest.yml"]

/-- The path of the manifest in a directory, if there is one. -/
def manifestIn? (tree : FileTree) (directory : String) : Option String :=
  (manifestNames.map (Path.below directory)).find? tree.isFile

/-- The manifest of a target; nothing when the target has none. -/
def manifest? (registry : DirectoryRegistry) (tree : FileTree) (target : String) :
    Except RegistryFault (Option Json) :=
  match registry.targetDirectory target with
  | .error fault => .error fault
  | .ok directory =>
    match manifestIn? tree directory with
    | none => .ok none
    | some path =>
      match tree.readText path with
      | .error fault => .error (.reading path fault)
      | .ok text =>
        match Document.parse text with
        | .error fault => .error (.parsing path fault)
        | .ok value => .ok (some value)

def template (registry : DirectoryRegistry) (tree : FileTree) (target path : String) :
    Except RegistryFault String :=
  if Path.isContained path then
    match registry.targetDirectory target with
    | .error fault => .error fault
    | .ok directory =>
      let place := Path.below (Path.below directory "templates") path
      (tree.readText place).mapError (.readingTemplate place)
  else .error (.badTemplate path)

/-- The registry as a source of manifests and templates. -/
def toRegistry (registry : DirectoryRegistry) : Registry where
  manifests tree target := (registry.manifest? tree target).mapError RegistryFault.message
  template tree target path := (registry.template tree target path).mapError RegistryFault.message

end DirectoryRegistry

end GuardedPlan
