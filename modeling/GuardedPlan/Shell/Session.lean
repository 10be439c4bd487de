import GuardedPlan.FileTree.Basic
import GuardedPlan.Shell.Bytes
import GuardedPlan.Shell.Script
import GuardedPlan.Table

/-!
# Shell sessions

The state of a shell while it runs commands: the files and the current directory, variables and functions, what its descriptors lead to, the status of the last command and the time that went by. A session that leaves a loop does nothing more until that loop takes note, and one that exited, was killed or ran out of time does nothing more at all.
-/

namespace GuardedPlan.Shell

/-- What a descriptor leads to: nothing, bytes in memory or a file, the latter two with the place where reading or writing goes on. -/
inductive Channel where
  | nothing
  | memory (content : ByteArray) (position : Nat)
  | file (location : Location) (position : Nat) (reads writes appends : Bool)

/-- A variable; it may be marked before it has a value. -/
structure Variable where
  value : Option String := none
  isExported : Bool := false
  isFixed : Bool := false
deriving DecidableEq, Repr

/-- How far a session has come; one that leaves loops does so for a number of them, the last of which may go on. A failed session has met an error that ends a shell unless something takes note of it first. -/
inductive Flow where
  | running
  | leaving (levels : Nat) (goesOn : Bool)
  | returning
  | failed
  | exited
  | killed (signal : Nat)
  | timedOut
deriving DecidableEq, Repr

/-- A function, and the line in which it was defined. -/
structure Function where
  line : Nat
  body : Script

/-- A command in the background: the number of its process, the status it comes to, the time of its end so far, and the script that it has yet to run with the variables it has then. -/
structure Job where
  process : Nat
  status : Nat
  finish : Nat
  script : Option Script := none
  bindings : Table Variable := .empty

/-- The state of a shell; the exit code of an exited one is its status. Signals that are pending are for the shell itself, those that are sent are for the one that a subshell belongs to. Times are in milliseconds. -/
structure Session where
  name : String
  arguments : List String := []
  isSubshell : Bool := false
  tree : FileTree
  bindings : Table Variable := .empty
  locals : List (List (String × Option Variable)) := []
  functions : Table Function := .empty
  options : List Char := []
  channels : Array Channel := #[.nothing, .memory .empty 0, .memory .empty 0]
  descriptors : List (Nat × Nat) := [(0, 0), (1, 1), (2, 2)]
  traps : List (Nat × String) := []
  pending : List Nat := []
  sent : List Nat := []
  jobs : List Job := []
  processes : Nat := 0
  substituted : Option Nat := none
  status : Nat := 0
  saved : Option Nat := none
  line : Nat := 1
  function : Nat := 0
  command : Option String := none
  loops : Nat := 0
  mask : Nat := 0o022
  optionPlace : Nat × Nat := (1, 0)
  aliases : Table String := .empty
  elapsed : Nat := 0
  limit : Option Nat := none
  flow : Flow := .running

namespace Session

/-- The number that stands for the process of the shell. -/
def processId : Nat := 1000

def isRunning (session : Session) : Bool :=
  session.flow = .running

def isSet (session : Session) (letter : Char) : Bool :=
  session.options.contains letter

def finish (session : Session) (status : Nat) : Session :=
  { session with status := status }

def exit (session : Session) (status : Nat) : Session :=
  { session with status := status, flow := .exited }

def terminate (session : Session) (signal : Nat) : Session :=
  { session with flow := .killed signal }

/-- Lets time go by; the session does not survive its limit. -/
def sleep (session : Session) (time : Nat) : Session :=
  let elapsed := session.elapsed + time
  match session.limit with
  | some limit =>
    if limit ≤ elapsed then { session with elapsed := limit, flow := .timedOut }
    else { session with elapsed := elapsed }
  | none => { session with elapsed := elapsed }

/-! ### Variables -/

def value? (session : Session) (name : String) : Option String :=
  (session.bindings.get? name).bind Variable.value

/-- What separates fields: blanks, unless a variable says otherwise. -/
def separators (session : Session) : List Char :=
  (session.value? "IFS").elim [' ', '\t', '\n'] String.toList

def setVariable (session : Session) (name : String) (found : Variable) : Session :=
  { session with bindings := session.bindings.insert name found }

def variableOf (session : Session) (name : String) : Variable :=
  (session.bindings.get? name).getD {}

def environment (session : Session) : List (String × String) :=
  session.bindings.entries.filterMap fun (name, found) =>
    if found.isExported then found.value.map fun value => (name, value) else none

/-! ### Channels -/

/-- The channel of a descriptor and its place among the channels. -/
def channel? (session : Session) (descriptor : Nat) : Option (Nat × Channel) :=
  (session.descriptors.lookup descriptor).bind fun place =>
    session.channels[place]?.map fun channel => (place, channel)

/-- Lets a descriptor lead to a channel by its place, or nowhere. -/
def connect (session : Session) (descriptor : Nat) (place : Option Nat) : Session :=
  let others := session.descriptors.filter fun (other, _) => other ≠ descriptor
  { session with
    descriptors := match place with
      | some place => (descriptor, place) :: others
      | none => others }

/-- Drops the channels behind a number of them that no descriptor leads to. -/
def dropChannels (session : Session) (count : Nat) : Session :=
  let kept := session.descriptors.foldl (fun kept (_, place) => max kept (place + 1)) count
  { session with channels := session.channels.shrink kept }

def restore (session before : Session) (descriptors : List Nat) : Session :=
  (descriptors.foldl (fun session descriptor =>
    session.connect descriptor (before.descriptors.lookup descriptor)) session).dropChannels before.channels.size

/-- Adds a channel, which goes by the place that the number of channels was before. -/
def addChannel (session : Session) (channel : Channel) : Session :=
  { session with channels := session.channels.push channel }

def attach (session : Session) (descriptor : Nat) (channel : Channel) : Session :=
  let place := session.channels.size
  (session.addChannel channel).connect descriptor (some place)

/-- The content of a file at a location, if it is still there. -/
def fileAt (tree : FileTree) (location : Location) : ByteArray :=
  match tree.entry? location with
  | some (.file content _) => content
  | _ => .empty

/-- A content in which bytes stand from a position on; a gap before them is filled with zeros. -/
def overwrite (content : ByteArray) (position : Nat) (bytes : ByteArray) : ByteArray :=
  if position = content.size then content ++ bytes
  else
    let gap : ByteArray := ⟨Array.replicate (position - content.size) 0⟩
    content.extract 0 position ++ gap ++ bytes ++ content.extract (position + bytes.size) content.size

/-- Writes bytes to a descriptor; nothing is answered when it takes none. -/
def write? (session : Session) (descriptor : Nat) (bytes : String) : Option Session :=
  match session.channel? descriptor with
  | none => none
  | some (_, .nothing) => some session
  | some (place, .memory _ _) =>
    some { session with
      channels := session.channels.modify place fun
        | .memory content position => .memory (content ++ Bytes.toContent bytes) position
        | channel => channel }
  | some (place, .file location position reads writes appends) =>
    if !writes then none
    else
      let content := Bytes.toContent bytes
      let before := fileAt session.tree location
      let position := if appends then before.size else position
      let tree := match session.tree.entry? location with
        | some (.file ..) => session.tree.putFile location (overwrite before position content)
        | _ => session.tree
      some { session with
        tree := tree
        channels := session.channels.set! place (.file location (position + content.size) reads writes appends) }

/-- The bytes that are left to read from a descriptor; nothing is answered when it gives none. -/
def rest? (session : Session) (descriptor : Nat) : Option ByteArray :=
  match session.channel? descriptor with
  | none => none
  | some (_, .nothing) => some .empty
  | some (_, .memory content position) => some (content.extract position content.size)
  | some (_, .file location position reads _ _) =>
    if reads then
      let content := fileAt session.tree location
      some (content.extract position content.size)
    else none

/-- Goes on by a number of bytes on what a descriptor reads. -/
def advance (session : Session) (descriptor count : Nat) : Session :=
  match session.channel? descriptor with
  | some (place, .memory content position) =>
    { session with channels := session.channels.set! place (.memory content (position + count)) }
  | some (place, .file location position reads writes appends) =>
    { session with channels := session.channels.set! place (.file location (position + count) reads writes appends) }
  | _ => session

def readAll (session : Session) : String × Session :=
  match session.rest? 0 with
  | some content => (Bytes.ofContent content, session.advance 0 content.size)
  | none => ("", session)

def contentAt (session : Session) (place : Nat) : ByteArray :=
  match session.channels[place]? with
  | some (.memory content _) => content
  | _ => .empty

/-! ### Output -/

/-- Prints bytes; a channel that takes none is passed over. -/
def print (session : Session) (bytes : String) : Session :=
  (session.write? 1 bytes).getD session

def printError (session : Session) (bytes : String) : Session :=
  (session.write? 2 bytes).getD session

def complain (session : Session) (text : String) : Session :=
  session.printError (text ++ "\n")

/-- Prints an error of the shell itself, with the line and the command that it is about. -/
def report (session : Session) (text : String) : Session :=
  session.complain (session.name ++ ": " ++ toString session.line ++ ": " ++
    (session.command.elim "" fun command => command ++ ": ") ++ text)

/-- Prints an error of the shell itself, which fails. -/
def abort (session : Session) (text : String) : Session :=
  { session.report text with status := 2, flow := .failed }

/-! ### Files -/

def devices : List String :=
  ["/dev/null", "/dev/zero", "/dev/full", "/dev/tty", "/dev/random", "/dev/urandom"]

/-- The path that swallows what is written and holds nothing. -/
def nullDevice : String := "/dev/null"

def descriptorOf? (path : String) : Option Nat :=
  match path with
  | "/dev/stdin" => some 0
  | "/dev/stdout" => some 1
  | "/dev/stderr" => some 2
  | path =>
    if path.startsWith "/dev/fd/" then (path.toList.drop 8 |> String.ofList).toNat? else none

def stat (session : Session) (path : String) : Except FileFault FileEntry :=
  session.tree.stat (Bytes.toText path)

def pathExists (session : Session) (path : String) : Bool :=
  devices.contains path || (descriptorOf? path).isSome || (session.stat path).toBool

def isFile (session : Session) (path : String) : Bool :=
  session.tree.isFile (Bytes.toText path)

def isDirectory (session : Session) (path : String) : Bool :=
  session.tree.isDirectory (Bytes.toText path)

def content (session : Session) (path : String) : Except FileFault String :=
  if devices.contains path then .ok ""
  else
    match descriptorOf? path with
    | some descriptor => .ok (Bytes.ofContent ((session.rest? descriptor).getD .empty))
    | none => (session.tree.readBytes (Bytes.toText path)).map Bytes.ofContent

/-- The names in a directory, without those of the directory itself and the one above. -/
def namesIn (session : Session) (path : String) : List String :=
  match session.tree.node (Bytes.toText path) with
  | .ok node => (node.names.map Bytes.ofText).mergeSort fun a b => decide (a ≤ b)
  | .error _ => []

def directory (session : Session) : String :=
  Bytes.ofText ("/" ++ "/".intercalate session.tree.current)

end Session

end GuardedPlan.Shell
