import GuardedPlan.Shell.Program.Compare
import GuardedPlan.Shell.Program.Column
import GuardedPlan.Shell.Program.Find
import GuardedPlan.Shell.Program.Launch
import GuardedPlan.Shell.Program.Search
import GuardedPlan.Shell.Program.Stream
import GuardedPlan.Shell.Program.Versions

/-!
# The programs of a machine

All programs by name, the directories in which they are found, and the search for the program that a name means. A file that may be executed is a script, which runs in the program that its first line names or else in a shell.
-/

namespace GuardedPlan.Shell

namespace Program

def all : List (String × (Deeper → Utility)) :=
  let plain (named : List (String × Utility)) : List (String × (Deeper → Utility)) :=
    named.map fun (name, utility) => (name, fun _ => utility)
  plain [("[", Utility.bracketProgram), ("basename", Utility.basename), ("cat", Utility.cat), ("chmod", Utility.chmod),
    ("cmp", Utility.cmp), ("comm", Utility.comm), ("cp", Utility.cp), ("cut", Utility.cut), ("diff", Utility.diff),
    ("dirname", Utility.dirname), ("echo", Utility.echoProgram), ("egrep", Utility.grep), ("expr", Utility.expr),
    ("false", fun _ session => session.finish 1), ("fgrep", Utility.grep), ("fold", Utility.fold), ("git", Utility.git),
    ("grep", Utility.grep), ("head", Utility.head), ("id", Utility.id), ("ln", Utility.ln), ("ls", Utility.ls),
    ("mkdir", Utility.mkdir), ("mv", Utility.mv), ("nl", Utility.nl), ("paste", Utility.paste),
    ("printenv", Utility.printenv), ("printf", Utility.printf), ("pwd", Utility.pwdProgram), ("readlink", Utility.readlink),
    ("realpath", Utility.realpath), ("rev", Utility.rev), ("rm", Utility.rm), ("rmdir", Utility.rmdir),
    ("sed", Utility.sed), ("seq", Utility.seq), ("sha256sum", Utility.sha256sum), ("sleep", Utility.sleep),
    ("sort", Utility.sort), ("stat", Utility.stat), ("sync", fun _ session => session.finish 0), ("tac", Utility.tac),
    ("tail", Utility.tail), ("tee", Utility.tee), ("test", Utility.testProgram), ("touch", Utility.touch),
    ("tr", Utility.tr), ("true", fun _ session => session.finish 0), ("truncate", Utility.truncate),
    ("uname", Utility.uname), ("uniq", Utility.uniq), ("wc", Utility.wc), ("whoami", Utility.whoami),
    ("yes", Utility.yes)] ++
  [("bash", Utility.shell), ("dash", Utility.shell), ("env", Utility.env), ("find", Utility.find),
    ("nice", Utility.passing "n"), ("nohup", Utility.passing ""), ("setsid", Utility.passing ""), ("sh", Utility.shell),
    ("stdbuf", Utility.passing "ioe"), ("timeout", Utility.timeout), ("xargs", Utility.xargs)]

/-- The directories in which the programs of a machine are. -/
def directories : List String :=
  ["/usr/bin", "/bin"]

/-- Where programs are looked for, unless a variable says otherwise. -/
def defaultPath : String :=
  "/usr/local/sbin:/usr/local/bin:/usr/sbin:/usr/bin:/sbin:/bin"

/-- What a name was found to be: a program of the machine, or a file that may be executed. -/
inductive Found where
  | machine (name : String)
  | script (content : String)

def at? (session : Session) (path : String) : Except LaunchFault Found :=
  let name := Utility.baseName path
  let directory := Utility.directoryName path
  if directories.contains directory && (all.lookup name).isSome then .ok (.machine name)
  else
    match session.node? path with
    | some (.file content true) => .ok (.script (Bytes.ofContent content))
    | some _ => .error .permissionDenied
    | none => .error .notFound

/-- The path of the program that a name means, and what it is. A file that may not be executed is passed over as long as there is another one. -/
def search (session : Session) (name : String) : Except LaunchFault (String × Found) :=
  if name.toList.contains '/' then (at? session name).map fun found => (name, found)
  else if name = "" then .error .notFound
  else
    let path := (session.value? "PATH").getD defaultPath
    let tried : List (String × Except LaunchFault Found) := (path.splitOn ":").map fun directory =>
      let place := if directory = "" then name else Utility.inside directory name
      match session.node? place, at? session place with
      | some (.directory _), _ => (place, .error .notFound)
      | _, found => (place, found)
    match tried.findSome? fun (place, found) => found.toOption.map fun found => (place, found) with
    | some found => .ok found
    | none =>
      let isDenied : Except LaunchFault Found → Bool
        | .error .permissionDenied => true
        | _ => false
      .error (if tried.any fun (_, found) => isDenied found then .permissionDenied else .notFound)

/-- The program that the first line of a script names, and the argument that it is given there. -/
def interpreter? (content : String) : Option (String × List String) :=
  match content.toList with
  | '#' :: '!' :: rest =>
    let isBlank (c : Char) : Bool := c = ' ' || c = '\t'
    let line := (rest.takeWhile (· ≠ '\n')).dropWhile isBlank
    let path := line.takeWhile fun c => !isBlank c
    let argument := ((line.drop path.length).dropWhile isBlank).reverse.dropWhile isBlank
    if path.isEmpty then none
    else some (String.ofList path, if argument.isEmpty then [] else [String.ofList argument.reverse])
  | _ => none

/-- The program that a name means, as what it does to a session of its own. -/
def find (deeper : Deeper) (name : String) (session : Session) : Except LaunchFault Utility :=
  match search session name with
  | .error fault => .error fault
  | .ok (_, .machine known) =>
    match all.lookup known with
    | some utility => .ok (Utility.named name (utility deeper))
    | none => .error .notFound
  | .ok (path, .script content) =>
    match interpreter? content with
    | none => .ok fun arguments session => Utility.shell deeper (path :: arguments) { session with name := name }
    | some (program, given) =>
      match at? session program with
      | .ok (.machine known) =>
        match all.lookup known with
        | some utility =>
          .ok fun arguments session => utility deeper (given ++ path :: arguments) { session with name := program }
        | none => .error .notFound
      | .ok (.script _) => .error .permissionDenied
      | .error fault => .error fault

end Program

end GuardedPlan.Shell
