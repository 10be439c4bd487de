import GuardedPlan.FileTree.Basic
import GuardedPlan.Repository.Index
import GuardedPlan.Repository.Settings
import GuardedPlan.Repository.Tracked
import GuardedPlan.Text.Decoded

/-!
# Repositories

A repository keeps a directory of its own files, the store, beside the files it tracks, or a file that says where the store is. The repository of a directory is the nearest one on the way up to the root. A store that cannot be used hides those further up.
-/

namespace GuardedPlan

/-- A repository: the top of its work tree and its store. -/
structure Repository where
  top : Location
  store : Location
deriving DecidableEq, Repr

inductive ListingFault where
  | pathspec (fault : PathspecFault)
  | index (path : String) (fault : IndexFault)
deriving DecidableEq, Repr

def ListingFault.message : ListingFault → String
  | pathspec fault => "fatal: " ++ fault.message
  | index path fault => fault.message path

namespace Repository

/-- The name under which a store stands beside the files. -/
def storeName : String := ".git"

/-- Whether a name means a store; the size of letters does not count. -/
def isStoreName (name : String) : Bool :=
  name.toList.map Char.toLower = storeName.toList

/-- The text of a file below a node, if there is such a file. -/
def textOf? (node : FileNode) (location : Location) : Option String :=
  match node.find? location with
  | some (.file content _) => some (Text.decoded content)
  | _ => none

/-- Whether a text can stand at the head of a store: it names a reference or begins with a hash. -/
def isHead (text : String) : Bool :=
  let chars := text.toList.take 256
  if "ref:".toList.isPrefixOf chars then
    "refs/".toList.isPrefixOf ((chars.drop 4).dropWhile Settings.isSpace)
  else
    40 ≤ (chars.takeWhile fun c => c.isDigit || ('a' ≤ c && c ≤ 'f') || ('A' ≤ c && c ≤ 'F')).length

/-- Whether a node is a store: it has a head, objects and references. -/
def isStore (node : FileNode) : Bool :=
  let hasDirectory (name : String) : Bool :=
    match node.child? name with
    | some (.directory _) => true
    | _ => false
  (textOf? node ["HEAD"]).any isHead && hasDirectory "objects" && hasDirectory "refs"

/-- The repository of a store whose settings allow files beside it. -/
def usable? (top store : Location) (node : FileNode) : Option Repository :=
  let settings? := match node.child? "config" with
    | some (.file content _) => Settings.read (Text.decoded content)
    | some (.directory _) => none
    | none => some []
  if settings?.bind Settings.hasWorkTree? = some true then some ⟨top, store⟩ else none

/-- The repository whose store is named in a file in place of a store. -/
def linked? (tree : FileTree) (top : Location) (content : ByteArray) : Option Repository :=
  let text := Text.decoded content
  if text.startsWith "gitdir: " then
    let named := (text.toList.drop 8).reverse.dropWhile fun c => c = '\n' || c = '\r'
    match { tree with current := top }.spot (String.ofList named.reverse) with
    | .ok spot => spot.here.bind fun node => if isStore node then usable? top spot.location node else none
    | .error _ => none
  else none

/-- What a directory says about the repository of all below it; nothing when it leaves that to those further up. -/
def decided? (tree : FileTree) (place : Location) : Option (Option Repository) :=
  let store := place ++ [storeName]
  let above? := if (tree.root.find? place).any isStore then some none else none
  match tree.root.find? store with
  | some (.file content _) => some (linked? tree place content)
  | some node => if isStore node then some (usable? place store node) else above?
  | none => above?

/-- The repository of a directory, given by its names in reverse. -/
def around? (tree : FileTree) : List String → Option Repository
  | [] => (decided? tree []).join
  | name :: above =>
    match decided? tree (name :: above).reverse with
    | some answer => answer
    | none => around? tree above

def of? (tree : FileTree) (place : Location) : Option Repository :=
  around? tree place.reverse

/-! ### Tracked files -/

def index (repository : Repository) : Location :=
  repository.store ++ ["index"]

def indexPath (repository : Repository) : String :=
  if repository.store = repository.top ++ [storeName] then storeName ++ "/index"
  else "/" ++ "/".intercalate repository.index

/-- The paths in the index, of which there are none when it is missing. -/
def paths (repository : Repository) (tree : FileTree) : Except IndexFault (List String) :=
  match tree.root.find? repository.index with
  | none => .ok []
  | some (.directory _) => .error .notFile
  | some (.file content _) => Index.decode content

/-- The tracked files that a path specification selects in a directory of the work tree. -/
def list (repository : Repository) (tree : FileTree) (place : Location) (specification : String) :
    Except ListingFault (List String) :=
  match repository.paths tree with
  | .error fault => .error (.index repository.indexPath fault)
  | .ok paths =>
    let tracked : TrackedFiles := ⟨paths, place.drop repository.top.length⟩
    (tracked.below ("/" ++ "/".intercalate repository.top) specification).mapError .pathspec

def precedes (a b : String) : Bool :=
  decide (a ≤ b)

def withPaths (repository : Repository) (tree : FileTree) (paths : List String) : FileTree :=
  tree.putFile repository.index (Index.encode (paths.eraseDups.mergeSort precedes))

/-- The files of the work tree that can be tracked, by their paths from the top. -/
def candidates (repository : Repository) (tree : FileTree) : List String :=
  (tree.filesBelow repository.top).filterMap fun (path, _) =>
    if (Path.segments path).any isStoreName then none else some path

/-- Tracks files that path specifications select, given in a directory of the work tree. -/
def stage (repository : Repository) (tree : FileTree) (place : Location) (specifications : List String) :
    Except ListingFault FileTree := do
  let tracked ← (repository.paths tree).mapError (.index repository.indexPath)
  let files : TrackedFiles := ⟨repository.candidates tree, []⟩
  let chosen ← specifications.mapM fun specification => do
    let spec ← (Pathspec.read specification).mapError .pathspec
    match spec.target? (place.drop repository.top.length) with
    | some target => return files.paths.filter (spec.selects target)
    | none =>
      throw (.pathspec (.outside specification (String.ofList spec.path) ("/" ++ "/".intercalate repository.top)))
  return repository.withPaths tree (tracked ++ chosen.flatten)

/-! ### Making repositories -/

/-- What is in a new store, directories before what is in them. -/
def newStore : List (Location × FileNode) :=
  let text (content : String) : FileNode := .file content.toUTF8 false
  [([], .empty), (["HEAD"], text "ref: refs/heads/master\n"), (["branches"], .empty),
    (["config"], text
      "[core]\n\trepositoryformatversion = 0\n\tfilemode = true\n\tbare = false\n\tlogallrefupdates = true\n"),
    (["description"], text "Unnamed repository; edit this file 'description' to name the repository.\n"),
    (["hooks"], .empty), (["info"], .empty),
    (["info", "exclude"], text (String.join
      ["# git ls-files --others --exclude-from=.git/info/exclude\n",
        "# Lines that start with '#' are comments.\n",
        "# For a project mostly in C, the following would be a good set of\n",
        "# exclude patterns (uncomment them if you want to use them):\n", "# *.[oa]\n", "# *~\n"])),
    (["objects"], .empty), (["objects", "info"], .empty), (["objects", "pack"], .empty),
    (["refs"], .empty), (["refs", "heads"], .empty), (["refs", "tags"], .empty)]

/-- Makes a directory the top of a work tree; what is in its store already stays. -/
def initialise (tree : FileTree) (top : Location) : FileTree :=
  newStore.foldl (fun tree (place, node) =>
    let location := top ++ storeName :: place
    if (tree.root.find? location).isSome then tree else tree.put location node) tree

end Repository

end GuardedPlan
