import GuardedPlan.FileTree.Fault
import GuardedPlan.FileTree.Node
import GuardedPlan.Path

/-!
# File trees

The files and directories that a program sees, from a current directory. A path is walked segment by segment; every segment, even an empty one or a dot, needs a directory to stand in. Operations fail with the fault that the operating system would report.
-/

namespace GuardedPlan

/-- The files and directories below a root, seen from a current directory. -/
structure FileTree where
  current : Location
  root : FileNode

namespace FileTree

def empty : FileTree := ⟨[], .empty⟩

/-- What stands at a location, if anything does. -/
def entry? (tree : FileTree) (location : Location) : Option FileEntry :=
  (tree.root.find? location).map FileNode.entry

/-- The tree with another node at a location, whose parent has to be a directory. -/
def put (tree : FileTree) (location : Location) (node : FileNode) : FileTree :=
  { tree with root := tree.root.put node location }

/-- The tree with a file at a location; a file that was there before stays executable if it was. -/
def putFile (tree : FileTree) (location : Location) (content : ByteArray) : FileTree :=
  match tree.root.find? location with
  | some (.file _ isExecutable) => tree.put location (.file content isExecutable)
  | _ => tree.put location (.file content false)

def remove (tree : FileTree) (location : Location) : FileTree :=
  { tree with root := tree.root.remove location }

/-! ### Walking paths -/

def maxNameBytes : Nat := 255

def pathBytesLimit : Nat := 4096

/-- A place on a walk: the names on the way to it in reverse, the directories passed, the last one first, and what stands there. -/
structure Spot where
  names : List String
  passed : List FileNode
  here : Option FileNode

namespace Spot

def descend (spot : Spot) : Location → Spot
  | [] => spot
  | name :: rest =>
    match spot.here with
    | some node => descend ⟨name :: spot.names, node :: spot.passed, node.child? name⟩ rest
    | none => ⟨(name :: rest).reverse ++ spot.names, spot.passed, none⟩

def location (spot : Spot) : Location :=
  spot.names.reverse

/-- The place one segment further, from one that has to be a directory. -/
def enter (spot : Spot) (segment : String) : Except FileFault Spot :=
  match spot.here with
  | none => .error .notFound
  | some (.file ..) => .error .notDirectory
  | some (.directory entries) =>
    if segment = "" ∨ segment = "." then .ok spot
    else if segment = ".." then
      match spot.names, spot.passed with
      | _ :: names, parent :: passed => .ok ⟨names, passed, some parent⟩
      | _, _ => .ok spot
    else if maxNameBytes < segment.utf8ByteSize then .error .nameTooLong
    else .ok ⟨segment :: spot.names, .directory entries :: spot.passed, entries.lookup segment⟩

/-- The place at the end of segments; nothing need stand there. -/
def walk (spot : Spot) : List String → Except FileFault Spot
  | [] => .ok spot
  | segment :: rest =>
    match spot.enter segment with
    | .ok next => walk next rest
    | .error fault => .error fault

end Spot

def origin (tree : FileTree) (path : String) : Spot :=
  let top : Spot := ⟨[], [], some tree.root⟩
  if path.toList.head? = some '/' then top else top.descend tree.current

def pathFault? (path : String) : Option FileFault :=
  if path = "" then some .notFound
  else if path.toList.contains '\x00' then some .nulInName
  else if pathBytesLimit ≤ path.utf8ByteSize then some .nameTooLong
  else none

/-- The place that a path names; nothing need stand there. -/
def spot (tree : FileTree) (path : String) : Except FileFault Spot :=
  match pathFault? path with
  | some fault => .error fault
  | none => (tree.origin path).walk (Path.segments path)

/-- The location that a path names; nothing need stand there. -/
def locate (tree : FileTree) (path : String) : Except FileFault Location :=
  (tree.spot path).map Spot.location

def node (tree : FileTree) (path : String) : Except FileFault FileNode :=
  match tree.spot path with
  | .error fault => .error fault
  | .ok spot =>
    match spot.here with
    | some node => .ok node
    | none => .error .notFound

def stat (tree : FileTree) (path : String) : Except FileFault FileEntry :=
  (tree.node path).map FileNode.entry

def pathExists (tree : FileTree) (path : String) : Bool :=
  (tree.stat path).toBool

def isFile (tree : FileTree) (path : String) : Bool :=
  match tree.stat path with
  | .ok (.file ..) => true
  | _ => false

def isDirectory (tree : FileTree) (path : String) : Bool :=
  match tree.stat path with
  | .ok .directory => true
  | _ => false

/-- The fault of entering a directory, if it cannot be entered. -/
def enterFault? (tree : FileTree) (directory : String) : Option FileFault :=
  match tree.stat directory with
  | .ok .directory => none
  | .ok (.file ..) => some .notDirectory
  | .error fault => some fault

/-! ### Reading and writing -/

def readBytes (tree : FileTree) (path : String) : Except FileFault ByteArray :=
  match tree.stat path with
  | .ok (.file content _) => .ok content
  | .ok .directory => .error .isDirectory
  | .error fault => .error fault

def readText (tree : FileTree) (path : String) : Except FileFault String :=
  match tree.readBytes path with
  | .ok content =>
    match String.fromUTF8? content with
    | some text => .ok text
    | none => .error .notText
  | .error fault => .error fault

/-- The text of a file; nothing when the path names no file. -/
def readIfFile (tree : FileTree) (path : String) : Except FileFault (Option String) :=
  if tree.isFile path then (tree.readText path).map some else .ok none

/-- The location of a file that is opened to be written, and its content so far. -/
def openForWriting (tree : FileTree) (path : String) : Except FileFault (Location × ByteArray) :=
  match pathFault? path with
  | some fault => .error fault
  | none =>
    let segments := (Path.segments path).reverse
    match segments.dropWhile (· = "") with
    | [] => .error .isDirectory
    | last :: above =>
      match (tree.origin path).walk (above.reverse ++ [""]) with
      | .error fault => .error fault
      | .ok directory =>
        if last = "." ∨ last = ".." ∨ segments.head? = some "" then .error .isDirectory
        else if maxNameBytes < last.utf8ByteSize then .error .nameTooLong
        else
          match directory.here.bind (·.child? last) with
          | some (.directory _) => .error .isDirectory
          | some (.file content _) => .ok (directory.location ++ [last], content)
          | none => .ok (directory.location ++ [last], ByteArray.empty)

def write (tree : FileTree) (path : String) (content : ByteArray) : Except FileFault FileTree :=
  (tree.openForWriting path).map fun (location, _) => tree.putFile location content

def append (tree : FileTree) (path : String) (content : ByteArray) : Except FileFault FileTree :=
  (tree.openForWriting path).map fun (location, before) => tree.putFile location (before ++ content)

/-! ### Making directories -/

/-- Makes the directory at the end of segments, given in reverse, whose parent has to exist. -/
def makeDirectory (tree : FileTree) (start : FileTree → Spot) (segments : List String) : Except FileFault FileTree :=
  match (start tree).walk segments.reverse with
  | .error fault => .error fault
  | .ok spot =>
    match spot.here with
    | some _ => .error .alreadyExists
    | none => if spot.passed.isEmpty then .error .notFound else .ok (tree.put spot.location .empty)

/-- Makes the directory at the end of segments, given in reverse, and those above it as far as they are missing. What was made stays even if a later one fails. -/
def makeAll (start : FileTree → Spot) : List String → FileTree → Except FileFault Unit × FileTree
  | [], tree => (.ok (), tree)
  | segment :: above, tree =>
    let isThere (tree : FileTree) : Bool :=
      match (start tree).walk (segment :: above).reverse with
      | .ok ⟨_, _, some (.directory _)⟩ => true
      | _ => false
    match tree.makeDirectory start (segment :: above) with
    | .ok tree => (.ok (), tree)
    | .error .notFound =>
      match makeAll start above tree with
      | (.error fault, tree) => (.error fault, tree)
      | (.ok (), tree) =>
        match tree.makeDirectory start (segment :: above) with
        | .ok tree => (.ok (), tree)
        | .error fault => if isThere tree then (.ok (), tree) else (.error fault, tree)
    | .error fault => if isThere tree then (.ok (), tree) else (.error fault, tree)

/-- Makes a directory and those above it as far as they are missing. -/
def makeDirectories (tree : FileTree) (path : String) : Except FileFault Unit × FileTree :=
  if path = "" then (.ok (), tree)
  else
    match pathFault? path with
    | some fault => (.error fault, tree)
    | none => makeAll (fun tree => tree.origin path) ((Path.segments path).reverse.dropWhile (· = "")) tree

/-! ### Listing -/

/-- All that stands in the tree with its location, a directory before what is in it. -/
def entries (tree : FileTree) : List (Location × FileEntry) :=
  tree.root.listing []

/-- The files below a location, by their paths from there, in the order of the tree. -/
def filesBelow (tree : FileTree) (location : Location) : List (String × ByteArray) :=
  match tree.root.find? location with
  | none => []
  | some node =>
    (node.listing []).filterMap fun (place, entry) =>
      match entry with
      | .file content _ => some ("/".intercalate place, content)
      | .directory => none

end FileTree

end GuardedPlan
