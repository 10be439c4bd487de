import GuardedPlan.Repository.Basic
import GuardedPlan.Shell.Program.Listing

/-!
# Version control from the shell

The few commands of version control that a script needs to make a repository and to say which files are tracked.
-/

namespace GuardedPlan.Shell

namespace Utility

/-- A path as it is listed: quotes and escapes around one that has unusual bytes. -/
def listedPath (path : String) : String :=
  let bytes := Bytes.ofText path
  let isPlain (c : Char) : Bool := ' ' ≤ c && c ≤ '~' && c ≠ '"' && c ≠ '\\'
  if bytes.toList.all isPlain then bytes
  else
    let octal (c : Char) : List Char :=
      ['\\', Nat.digitChar (c.toNat / 64), Nat.digitChar (c.toNat / 8 % 8), Nat.digitChar (c.toNat % 8)]
    let shown (c : Char) : List Char :=
      match c with
      | '"' => ['\\', '"']
      | '\\' => ['\\', '\\']
      | '\n' => ['\\', 'n']
      | '\t' => ['\\', 't']
      | '\r' => ['\\', 'r']
      | '\x07' => ['\\', 'a']
      | '\x08' => ['\\', 'b']
      | '\x0b' => ['\\', 'v']
      | '\x0c' => ['\\', 'f']
      | c => if isPlain c then [c] else octal c
    "\"" ++ String.ofList (bytes.toList.flatMap shown) ++ "\""

def fatal (session : Session) (text : String) : Session :=
  (session.complain ("fatal: " ++ text)).finish 128

def makeRepository (arguments : List String) (session : Session) : Session :=
  let operands := arguments.filter fun text => !text.startsWith "-"
  let quiet := arguments.contains "-q" || arguments.contains "--quiet"
  let path := operands.headD "."
  let (_, tree) := session.tree.makeDirectories (Bytes.toText path)
  match tree.locate (Bytes.toText path) with
  | .error fault => fatal session ("cannot mkdir " ++ path ++ ": " ++ fault.reason)
  | .ok top =>
    let isNew := (tree.entry? (top ++ [Repository.storeName])).isNone
    let session := { session with tree := Repository.initialise tree top }
    let place := Bytes.ofText ("/" ++ "/".intercalate (top ++ [Repository.storeName])) ++ "/"
    if quiet then session.finish 0
    else (session.finish 0).put ((if isNew then "Initialized empty" else "Reinitialized existing") ++
      " Git repository in " ++ place ++ "\n")

def track (repository : Repository) (arguments : List String) (session : Session) : Session :=
  let all := ["-A", "--all", "-u", "--update"].any arguments.contains
  let operands := (arguments.filter fun text => !text.startsWith "-").map Bytes.toText
  let specifications := if operands.isEmpty && all then [":/"] else operands
  if specifications.isEmpty then (session.complain "Nothing specified, nothing added.").finish 0
  else
    let place := session.tree.current
    let known := (repository.paths session.tree).toOption.getD []
    let files : TrackedFiles := ⟨repository.candidates session.tree ++ known, place.drop repository.top.length⟩
    let unmatched := specifications.find? fun specification =>
      match files.below ("/" ++ "/".intercalate repository.top) specification with
      | .ok found => found.isEmpty && !session.tree.isDirectory specification && specification ≠ ":/"
      | .error _ => false
    match unmatched with
    | some specification => fatal session ("pathspec '" ++ Bytes.ofText specification ++ "' did not match any files")
    | none =>
      match repository.stage session.tree place specifications with
      | .ok tree => { session with tree := tree }.finish 0
      | .error fault => (session.complain (Bytes.ofText fault.message)).finish 128

def listTracked (repository : Repository) (arguments : List String) (session : Session) : Session :=
  let operands := (arguments.filter fun text => !text.startsWith "-").map Bytes.toText
  let strict := arguments.contains "--error-unmatch"
  let specifications := if operands.isEmpty then ["."] else operands
  let found := specifications.foldl (fun (found : Except ListingFault (List String × List String)) specification => do
    let (paths, missing) ← found
    let more ← repository.list session.tree session.tree.current specification
    return (paths ++ more, if more.isEmpty then missing ++ [specification] else missing)) (.ok ([], []))
  match found with
  | .error fault => (session.complain (Bytes.ofText fault.message)).finish 128
  | .ok (paths, missing) =>
    let ending := if arguments.contains "-z" then "\x00" else "\n"
    let shown (path : String) : String := if arguments.contains "-z" then Bytes.ofText path else listedPath path
    let sorted := (paths.eraseDups.mergeSort fun a b => decide (a ≤ b))
    let session := (session.finish 0).put (String.join (sorted.map fun path => shown path ++ ending))
    if strict && !operands.isEmpty && !missing.isEmpty then
      (missing.foldl (fun session specification =>
        session.complain ("error: pathspec '" ++ Bytes.ofText specification ++ "' did not match any file(s) known to git"))
        session).complain "Did you forget to 'git add'?" |>.finish 1
    else session

/-- Stops tracking files, and removes them unless they are to be kept. -/
def untrack (repository : Repository) (arguments : List String) (session : Session) : Session :=
  let keeps := arguments.contains "--cached"
  let specifications := (arguments.filter fun text => !text.startsWith "-").map Bytes.toText
  let found := specifications.mapM fun specification =>
    (repository.list session.tree session.tree.current specification).map fun paths => (specification, paths)
  match found with
  | .error fault => (session.complain (Bytes.ofText fault.message)).finish 128
  | .ok found =>
    match found.find? fun (_, paths) => paths.isEmpty with
    | some (specification, _) =>
      fatal session ("pathspec '" ++ Bytes.ofText specification ++ "' did not match any files")
    | none =>
      let places := found.flatMap fun (_, paths) => paths.filterMap fun path => (session.tree.locate path).toOption
      let known := (repository.paths session.tree).toOption.getD []
      let kept := known.filter fun path => !places.contains (repository.top ++ Path.segments path)
      let tree := repository.withPaths session.tree kept
      let tree := if keeps then tree else places.foldl FileTree.remove tree
      let names := places.map fun place => Bytes.ofText ("/".intercalate (place.drop repository.top.length))
      ({ session with tree := tree }.finish 0).put (String.join (names.map fun name => "rm '" ++ name ++ "'\n"))

def locateRepository (repository : Repository) (arguments : List String) (session : Session) : Session :=
  let place := session.tree.current
  arguments.foldl (fun session argument =>
    match argument with
    | "--is-inside-work-tree" => session.put (if repository.store.isPrefixOf place then "false\n" else "true\n")
    | "--is-inside-git-dir" => session.put (if repository.store.isPrefixOf place then "true\n" else "false\n")
    | "--show-toplevel" => session.put (Bytes.ofText ("/" ++ "/".intercalate repository.top) ++ "\n")
    | "--show-prefix" =>
      let below := place.drop repository.top.length
      session.put (Bytes.ofText (String.join (below.map fun name => name ++ "/")) ++ "\n")
    | "--git-dir" =>
      session.put ((if place = repository.top then Repository.storeName
        else Bytes.ofText ("/" ++ "/".intercalate repository.store)) ++ "\n")
    | argument =>
      fatal session ("ambiguous argument '" ++ argument ++ "': unknown revision or path not in the working tree."))
    (session.finish 0)

def git : Utility := fun arguments session =>
  let rec enter : Nat → List String → Session → Except Session (List String × Session)
    | 0, arguments, session => .ok (arguments, session)
    | fuel + 1, arguments, session =>
      match arguments with
      | "-C" :: path :: rest =>
        match session.tree.locate (Bytes.toText path), session.isDirectory path with
        | .ok location, true => enter fuel rest { session with tree := { session.tree with current := location } }
        | _, _ => .error (fatal session ("cannot change to '" ++ path ++ "': " ++ FileFault.notFound.reason))
      | "-c" :: _ :: rest => enter fuel rest session
      | arguments => .ok (arguments, session)
  match enter (arguments.length + 1) arguments session with
  | .error session => session
  | .ok (arguments, session) =>
    match arguments with
    | [] => (session.complain "usage: git [-v | --version] [-h | --help] [-C <path>] [-c <name>=<value>]").finish 1
    | "init" :: rest => makeRepository rest session
    | "--version" :: _ => (session.finish 0).put "git version 2.39.5\n"
    | name :: rest =>
      let run? : Option (Repository → List String → Session → Session) :=
        match name with
        | "add" => some track
        | "ls-files" => some listTracked
        | "rm" => some untrack
        | "rev-parse" => some locateRepository
        | "status" => some fun _ _ session => session.finish 0
        | _ => none
      match run?, Repository.of? session.tree session.tree.current with
      | none, _ => (session.complain ("git: '" ++ name ++ "' is not a git command. See 'git --help'.")).finish 1
      | some _, none => fatal session "not a git repository (or any of the parent directories): .git"
      | some run, some repository => run repository rest session

end Utility

end GuardedPlan.Shell
