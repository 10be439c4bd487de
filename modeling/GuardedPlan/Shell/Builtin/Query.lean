import GuardedPlan.Shell.Builtin.Control
import GuardedPlan.Shell.Grammar

/-!
# Commands that ask and go

What a name means to a shell, the current directory and the way to others, and settings that are only remembered.
-/

namespace GuardedPlan.Shell

namespace Builtin

/-- The special commands that a shell has itself, besides the one for local variables. -/
def specialNames : List String :=
  "local" :: Script.specialNames

def regularNames : List String :=
  ["[", "alias", "bg", "cd", "chdir", "command", "echo", "false", "fg", "getopts", "hash", "jobs", "kill", "printf", "pwd",
    "read", "test", "true", "type", "ulimit", "umask", "unalias", "wait"]

/-- What a name means to a shell. -/
inductive Meaning where
  | reserved
  | alias (text : String)
  | special
  | function
  | builtin
  | program (path : String)
  | unknown

def meaning (session : Session) (name : String) : Meaning :=
  if Token.reservedWords.contains name then .reserved
  else
    match session.aliases.get? name with
    | some text => .alias text
    | none =>
      if specialNames.contains name then .special
      else if (session.functions.get? name).isSome then .function
      else if regularNames.contains name then .builtin
      else
        match Program.search session name with
        | .ok (path, _) => .program path
        | .error _ => .unknown

def sentence (name : String) : Meaning → String
  | .reserved => name ++ " is a shell keyword"
  | .alias text => name ++ " is an alias for " ++ text
  | .special => name ++ " is a special shell builtin"
  | .function => name ++ " is a shell function"
  | .builtin => name ++ " is a shell builtin"
  | .program path => name ++ " is " ++ path
  | .unknown => name ++ ": not found"

/-- What a name means, as short as possible. -/
def brief (name : String) : Meaning → String
  | .alias text => "alias " ++ name ++ "=" ++ quoted text
  | .program path => path
  | _ => name

/-- Says what a name means and whether it means anything. -/
def describe (isShort : Bool) (name : String) (session : Session) : Session :=
  match meaning session name with
  | .unknown => (if isShort then session else session.print (sentence name .unknown ++ "\n")).finish 127
  | found => session.print ((if isShort then brief name found else sentence name found) ++ "\n")

def type : Utility := fun arguments session =>
  arguments.foldl (fun session name => describe false name session) (session.finish 0)

/-- Says what a name means; what runs a command is not this. -/
def command : Utility := fun arguments session =>
  match arguments with
  | "-v" :: name :: _ => describe true name (session.finish 0)
  | "-V" :: name :: _ => describe false name (session.finish 0)
  | "-p" :: "-v" :: name :: _ => describe true name (session.finish 0)
  | "-pv" :: name :: _ => describe true name (session.finish 0)
  | argument :: _ =>
    match argument.toList with
    | '-' :: c :: _ =>
      if ['v', 'V', 'p', '-'].contains c then session.finish 0 else session.abort ("Illegal option -" ++ String.ofList [c])
    | _ => session.finish 0
  | [] => session.finish 0

def hash : Utility :=
  withOptions "rv" fun _ arguments session =>
    arguments.foldl (fun session name =>
      match meaning session name with
      | .unknown => (session.report (name ++ ": not found")).finish 1
      | _ => session) (session.finish 0)

/-! ### Directories -/

def goTo (path : String) (shows : Bool) (session : Session) : Session :=
  let before := session.directory
  let start : List String := if path.startsWith "/" then [] else session.tree.current
  let location := (Path.segments (Bytes.toText path)).foldl (fun (location : List String) segment =>
    if segment = "" ∨ segment = "." then location
    else if segment = ".." then location.dropLast
    else location ++ [segment]) start
  match session.tree.entry? location with
  | some .directory =>
    let session := { session with tree := { session.tree with current := location } }
    let mark (name value : String) (session : Session) : Session :=
      session.setVariable name { session.variableOf name with value := some value, isExported := true }
    let session := mark "PWD" session.directory (mark "OLDPWD" before session)
    (if shows then session.print (session.directory ++ "\n") else session).finish 0
  | _ => session.abort ("can't cd to " ++ path)

def cd : Utility :=
  withOptions "LP" fun _ arguments session =>
    match arguments with
    | [] => goTo ((session.value? "HOME").getD "") false session
    | "-" :: _ => goTo ((session.value? "OLDPWD").getD "") true session
    | path :: _ =>
      let isPlain := path.startsWith "/" || ["." , ".."].contains ((path.splitOn "/").headD "")
      let places := if isPlain || path = "" then [] else ((session.value? "CDPATH").getD "").splitOn ":"
      match (places.filter (· ≠ "")).find? fun place => session.isDirectory (Utility.inside place path) with
      | some place => goTo (Utility.inside place path) true session
      | none => goTo path false session

def pwd : Utility :=
  withOptions "LP" fun _ _ session => Utility.printed "pwd" (session.directory ++ "\n") session

/-! ### Settings that are only remembered -/

/-- The octal digits of a mask, or its clauses. -/
def shownMask (isSymbolic : Bool) (mask : Nat) : String :=
  if isSymbolic then
    let letters (shift : Nat) : String :=
      let bits := mask / shift % 8
      String.ofList ([('r', 4), ('w', 2), ('x', 1)].filterMap fun (c, bit) => if bits / bit % 2 = 0 then some c else none)
    "u=" ++ letters 64 ++ ",g=" ++ letters 8 ++ ",o=" ++ letters 1
  else
    let digits := Nat.toDigits 8 mask
    String.ofList (List.replicate (4 - digits.length) '0' ++ digits)

/-- Sets the rights that new files do not get, or shows them. -/
def umask : Utility :=
  withOptions "S" fun letters arguments session =>
    match arguments with
    | [] => (session.print (shownMask (letters.contains 'S') session.mask ++ "\n")).finish 0
    | text :: _ =>
      if (text.toList.head?).any Char.isDigit then
        if text.toList.all fun c => '0' ≤ c && c ≤ '7' then
          { session with mask := (text.toList.foldl (fun (n : Nat) (c : Char) => n * 8 + (c.toNat - '0'.toNat)) 0) % 512 }.finish 0
        else session.abort ("Illegal number: " ++ text)
      else session.finish 0

def ulimit : Utility :=
  withOptions "HSatfdscmlpnvwr" fun _ arguments session =>
    (if arguments.isEmpty then session.print "unlimited\n" else session).finish 0

def times : Utility := fun _ session =>
  (session.print "0m0.000000s 0m0.000000s\n0m0.000000s 0m0.000000s\n").finish 0

/-! ### The table -/

def test : Utility := fun arguments session =>
  match Condition.value session arguments with
  | .ok holds => session.finish (if holds then 0 else 1)
  | .error fault => session.abort fault.message

def bracket : Utility := fun arguments session =>
  match arguments.getLast? with
  | some "]" => test arguments.dropLast session
  | _ => session.abort "missing ]"

def find? (deeper : Deeper) (stance : Stance) (name : String) : Option Utility :=
  match name with
  | ":" => some fun _ session => session.finish 0
  | "." => some (source deeper)
  | "[" => some bracket
  | "alias" => some makeAlias
  | "bg" => some resume
  | "break" => some (leaveLoops false)
  | "cd" => some cd
  | "chdir" => some cd
  | "command" => some command
  | "continue" => some (leaveLoops true)
  | "echo" => some Utility.echo
  | "eval" => some (eval deeper stance)
  | "exec" => some fun _ session => session.finish 0
  | "exit" => some exit
  | "export" => some markExported
  | "false" => some fun _ session => session.finish 1
  | "fg" => some resume
  | "getopts" => some getopts
  | "hash" => some hash
  | "jobs" => some jobs
  | "kill" => some kill
  | "local" => some declareLocal
  | "printf" => some Utility.printf
  | "pwd" => some pwd
  | "read" => some read
  | "readonly" => some markFixed
  | "return" => some leave
  | "set" => some set
  | "shift" => some shift
  | "test" => some test
  | "times" => some times
  | "trap" => some trap
  | "true" => some fun _ session => session.finish 0
  | "type" => some type
  | "ulimit" => some ulimit
  | "umask" => some umask
  | "unalias" => some unalias
  | "unset" => some unset
  | "wait" => some (wait deeper)
  | _ => none

end Builtin

end GuardedPlan.Shell
