/-!
# Nodes of a file tree

A node is a file or a directory with the nodes in it. A location is the list of names on the way down from a node; what stands there is found and replaced by recursion on the location, so that a change at one location is seen at no other.
-/

namespace GuardedPlan

abbrev Location := List String

/-- A file, or a directory with what is in it in the order in which it came. -/
inductive FileNode where
  | file (content : ByteArray) (isExecutable : Bool)
  | directory (entries : List (String × FileNode))

/-- What a node is, apart from what is in it. -/
inductive FileEntry where
  | directory
  | file (content : ByteArray) (isExecutable : Bool)

instance : DecidableEq FileEntry
  | .directory, .directory => isTrue rfl
  | .directory, .file .. => isFalse (by simp)
  | .file .., .directory => isFalse (by simp)
  | .file content isExecutable, .file other isOtherExecutable =>
    letI := ByteArray.instDecidableEq content other
    decidable_of_iff (content = other ∧ isExecutable = isOtherExecutable) (by simp)

namespace FileNode

def empty : FileNode := directory []

/-- What the node is, apart from what is in it. -/
def entry : FileNode → FileEntry
  | file content isExecutable => .file content isExecutable
  | directory _ => .directory

def child? (node : FileNode) (name : String) : Option FileNode :=
  match node with
  | file .. => none
  | directory entries => entries.lookup name

def find? (node : FileNode) : Location → Option FileNode
  | [] => some node
  | name :: rest => (node.child? name).bind fun child => child.find? rest

/-- Entries with a node under a name, in place of the one that was there or at the end. -/
def putEntry (name : String) (node : FileNode) : List (String × FileNode) → List (String × FileNode)
  | [] => [(name, node)]
  | (other, kept) :: rest =>
    if other = name then (name, node) :: rest else (other, kept) :: putEntry name node rest

/-- The node with another one at a location, whose parent has to be a directory. -/
def put (node new : FileNode) : Location → FileNode
  | [] => new
  | name :: rest =>
    match node with
    | file .. => node
    | directory entries =>
      match entries.lookup name, rest with
      | some child, rest => directory (putEntry name (child.put new rest) entries)
      | none, [] => directory (putEntry name new entries)
      | none, _ :: _ => node

def remove (node : FileNode) : Location → FileNode
  | [] => node
  | [name] =>
    match node with
    | file .. => node
    | directory entries => directory (entries.filter fun entry => entry.1 ≠ name)
  | name :: rest =>
    match node with
    | file .. => node
    | directory entries =>
      match entries.lookup name with
      | some child => directory (putEntry name (child.remove rest) entries)
      | none => node

def names : FileNode → List String
  | file .. => []
  | directory entries => entries.map Prod.fst

mutual

/-- What is below the node with its location, a directory before what is in it. -/
def listing (node : FileNode) (above : Location) : List (Location × FileEntry) :=
  match node with
  | file .. => []
  | directory entries => entryListing entries above

/-- The entries of a directory and what is below them. -/
def entryListing (entries : List (String × FileNode)) (above : Location) : List (Location × FileEntry) :=
  match entries with
  | [] => []
  | (name, node) :: rest =>
    (above ++ [name], node.entry) :: (node.listing (above ++ [name]) ++ entryListing rest above)

end

end FileNode

end GuardedPlan
