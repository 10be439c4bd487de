import GuardedPlan.CommandLine.Perform

/-!
# The program

Reads the current directory and what the command line names into a file tree, answers the request on that tree and writes back what changed. The commands of a plan run in the library's own shell, on the tree.
-/

open GuardedPlan

def pathOf (location : Location) : String :=
  "/" ++ "/".intercalate location

/-- The location that a path names when dots are resolved without looking at files. -/
def locationOf (current : Location) (path : String) : Location :=
  (Path.segments path).foldl (fun location segment =>
    if segment = "" ∨ segment = "." then location
    else if segment = ".." then location.dropLast
    else location ++ [segment]) (if path.startsWith "/" then [] else current)

/-- The tree with one more entry; a directory that is there stays as it is. -/
def plant (tree : FileTree) (found : Location × FileEntry) : FileTree :=
  match found, tree.entry? found.1 with
  | (location, .file content isExecutable), none => tree.put location (.file content isExecutable)
  | (location, .directory), none => tree.put location .empty
  | _, some _ => tree

/-- Whether the owner of a file may execute it; a file that hides its rights counts as not executable. -/
def isExecutable (_path : String) : IO Bool :=
  return false

/-- What stands below a location, given the entries of its directory. Links to directories are not followed. -/
partial def entriesBelow (location : Location) (found : Array IO.FS.DirEntry) :
    IO (List (Location × FileEntry)) := do
  let mut entries := []
  for entry in found do
    let place := location ++ [entry.fileName]
    match (← entry.path.symlinkMetadata).type with
    | .dir => entries := entries ++ (place, .directory) :: (← entriesBelow place (← entry.path.readDir))
    | .file => entries := entries ++ [(place, .file (← IO.FS.readBinFile entry.path) (← isExecutable entry.path.toString))]
    | _ => entries := entries ++ [(place, if ← entry.path.isDir then .directory else .file .empty false)]
  return entries

/-- What stands at a location and below it, as far as something does. -/
def entriesAt (location : Location) : IO (List (Location × FileEntry)) := do
  try
    let place ← IO.FS.realPath (pathOf location)
    if ← place.isDir then
      return (location, .directory) :: (← entriesBelow location (← place.readDir))
    else if ← place.pathExists then
      return [(location, .file (← IO.FS.readBinFile place) (← isExecutable place.toString))]
    else return []
  catch _ => return []

/-- The directories on the way to a location, as far as they are there. -/
def directoriesAbove (location : Location) : IO (List (Location × FileEntry)) := do
  let mut entries := []
  for count in List.range location.length do
    let above := location.take count
    try
      if ← (← IO.FS.realPath (pathOf above)).isDir then entries := entries ++ [(above, .directory)]
    catch _ => break
  return entries

def readTree (request : CommandLine.Request) : IO FileTree := do
  let current := locationOf [] (toString (← IO.currentDir))
  let outside := (request.paths.map (locationOf current)).filter fun location => !current.isPrefixOf location
  let mut entries ← directoriesAbove current
  entries := entries ++ (← entriesAt current)
  for location in outside do
    entries := entries ++ (← directoriesAbove location) ++ (← entriesAt location)
  return { entries.foldl plant .empty with current := current }

/-- Writes the entries that are new or changed and removes the files that are gone. -/
def writeTree (before after : FileTree) : IO Unit := do
  for (location, entry) in before.entries do
    match entry, after.entry? location with
    | .file .., none => IO.FS.removeFile (pathOf location)
    | _, _ => pure ()
  for (location, entry) in after.entries do
    if before.entry? location ≠ some entry then
      match entry with
      | .directory => IO.FS.createDirAll (pathOf location)
      | .file content isExecutable =>
        IO.FS.writeBinFile (pathOf location) content
        if isExecutable then
          IO.setAccessRights (pathOf location) ⟨⟨true, true, true⟩, ⟨true, false, true⟩, ⟨true, false, true⟩⟩

/-- Answers the request of the command line. -/
def main (arguments : List String) : IO UInt32 := do
  match CommandLine.Request.ofArguments arguments with
  | .error fault =>
    (← IO.getStderr).putStr (CommandLine.refusal fault)
    return CommandLine.refusalCode.toUInt32
  | .ok request =>
    let tree ← readTree request
    let outcome := request.perform tree
    writeTree tree outcome.tree
    (← IO.getStdout).putStr outcome.stdout
    (← IO.getStderr).putStr outcome.stderr
    return outcome.ending.code.toUInt32
