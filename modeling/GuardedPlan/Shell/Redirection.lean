import GuardedPlan.Shell.Expansion
import GuardedPlan.Shell.Token

/-!
# Redirections

A redirection opens a file, takes over another descriptor or gives a text to read. Targets are expanded first, all of them, and applied afterwards in order; the first one that fails ends that.
-/

namespace GuardedPlan.Shell

/-- A redirection whose target is known. -/
inductive Connection where
  | file (descriptor : Nat) (opening : Opening) (path : String)
  | text (descriptor : Nat) (content : String)
  | copy (descriptor source : Nat)
  | close (descriptor : Nat)

def Redirection.descriptor : Redirection → Nat
  | file descriptor _ _ => descriptor
  | document descriptor _ => descriptor
  | awaited descriptor _ => descriptor

namespace Session

/-- What keeps a file from being opened, in the words of a shell. -/
def openFault (missing : String) (fault : FileFault) : String :=
  match fault with
  | .notFound => missing
  | .notDirectory => missing
  | fault => fault.reason

/-- The target of a redirection; a descriptor that is none fails. -/
def connection (deeper : Deeper) (redirection : Redirection) (session : Session) : Option Connection × Session :=
  match redirection with
  | .awaited _ _ => (none, session)
  | .document descriptor body =>
    let (text, session) := Expansion.text deeper body session
    (some (.text descriptor text), session)
  | .file descriptor opening target =>
    let (path, session) := Expansion.text deeper target session
    match opening, path.toList with
    | .duplicate, ['-'] => (some (.close descriptor), session)
    | .duplicate, [c] =>
      if c.isDigit then (some (.copy descriptor (c.toNat - '0'.toNat)), session)
      else (none, session.abort ScriptFault.badDescriptor.message)
    | .duplicate, _ => (none, session.abort ScriptFault.badDescriptor.message)
    | opening, _ => (some (.file descriptor opening path), session)

def connections (deeper : Deeper) : List Redirection → Session → List Connection × Session
  | [], session => ([], session)
  | first :: rest, session =>
    let (found, session) := connection deeper first session
    if session.isRunning then
      let (more, session) := connections deeper rest session
      (found.toList ++ more, session)
    else ([], session)

/-- Opens a file for a descriptor; the error is what the shell says. -/
def openFile (session : Session) (descriptor : Nat) (opening : Opening) (path : String) : Except String Session :=
  let cannot (verb missing : String) (fault : FileFault) : Except String Session :=
    .error ("cannot " ++ verb ++ " " ++ path ++ ": " ++ openFault missing fault)
  let device? : Option Session :=
    if devices.contains path then some (session.attach descriptor .nothing)
    else
      (descriptorOf? path).bind fun source =>
        (session.channel? source).map fun (place, _) => session.connect descriptor (some place)
  let name := Bytes.toText path
  match device?, opening with
  | some session, _ => .ok session
  | none, .read =>
    match session.tree.locate name, session.tree.stat name with
    | .ok location, .ok (.file ..) => .ok (session.attach descriptor (.file location 0 true false false))
    | .ok location, .ok .directory => .ok (session.attach descriptor (.file location 0 false false false))
    | _, .error fault => cannot "open" "No such file" fault
    | .error fault, _ => cannot "open" "No such file" fault
  | none, opening =>
    let keeps : Bool := match opening with
      | .append => true
      | .readWrite => true
      | _ => false
    let spares : Bool := match opening with
      | .write => true
      | _ => false
    let reads : Bool := match opening with
      | .readWrite => true
      | _ => false
    if session.isSet 'C' && session.isFile path && spares then cannot "create" "Directory nonexistent" .alreadyExists
    else
      match session.tree.openForWriting name with
      | .error fault => cannot "create" "Directory nonexistent" fault
      | .ok (location, before) =>
        let tree := session.tree.putFile location (if keeps then before else .empty)
        .ok ({ session with tree := tree }.attach descriptor
          (.file location 0 reads true (match opening with
            | .append => true
            | _ => false)))

/-- Applies a redirection; the error is what the shell says. -/
def apply (session : Session) : Connection → Except String Session
  | .file descriptor opening path => session.openFile descriptor opening path
  | .text descriptor content => .ok (session.attach descriptor (.memory (Bytes.toContent content) 0))
  | .close descriptor => .ok (session.connect descriptor none)
  | .copy descriptor source =>
    match session.channel? source with
    | some (place, _) => .ok (session.connect descriptor (some place))
    | none => .error (toString source ++ ": Bad file descriptor")

/-- Applies redirections in order; the session holds what the first ones did even if a later one fails. -/
def applyAll : List Connection → Session → Option String × Session
  | [], session => (none, session)
  | first :: rest, session =>
    match session.apply first with
    | .ok session => applyAll rest session
    | .error message => (some message, session)

end Session

end GuardedPlan.Shell
