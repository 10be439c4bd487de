import GuardedPlan.Execution.Basic
import GuardedPlan.Shell.Evaluation
import GuardedPlan.Text.Blank
import GuardedPlan.Text.Decoded

/-!
# Running commands

A runner starts a program with some arguments, the command last, in a working directory. The program is a shell or any other one that the machine has. With a limit, a command that takes too long is killed and counts as failed.
-/

namespace GuardedPlan.Shell

inductive SpawnFault where
  | file (fault : FileFault)
  | nulByte
deriving DecidableEq, Repr

def SpawnFault.message : SpawnFault → String
  | file fault => fault.message
  | nulByte => "nul byte found in provided data"

/-- A machine whose scripts may start others as deep as a bound; a process that goes deeper is ended for want of stack. -/
def machine : Nat → Deeper
  | 0 =>
    { evaluate := fun _ _ session => session.terminate Signal.overflow
      text := fun _ _ session => session.terminate Signal.overflow
      program := fun _ _ => .ok fun _ session => session.terminate Signal.overflow }
  | depth + 1 =>
    let deeper := machine depth
    let evaluate (stance : Stance) (script : Script) (session : Session) : Session := script.evaluate deeper stance session
    { evaluate := evaluate
      text := Session.evaluateText evaluate
      program := Program.find deeper }

/-- How deep scripts may start others. -/
def maxDepth : Nat := 512

/-- The variables that a program sees when it is started from outside. -/
def environment (directory : String) : Table Variable :=
  .ofList ([("HOME", "/root"), ("PATH", Program.defaultPath), ("PWD", directory)].map fun (name, value) =>
    (name, { value := some value, isExported := true }))

/-- Runs a program in a session that has just begun. -/
def spawn (arguments : List String) (session : Session) : Except SpawnFault Session :=
  match arguments with
  | [] => .error (.file .notFound)
  | program :: rest =>
    if (program :: rest).any fun text => text.toList.contains '\x00' then .error .nulByte
    else
      match (machine maxDepth).program program session with
      | .ok run => .ok (run rest { session with name := program })
      | .error .notFound =>
        match program.toList.contains '/', session.stat program with
        | true, .error fault => .error (.file fault)
        | _, _ => .error (.file .notFound)
      | .error .permissionDenied => .error (.file .permissionDenied)

/-- A program with its first arguments, and a limit in milliseconds. -/
structure Runner where
  shell : List String
  limit : Option Nat
deriving DecidableEq, Repr

namespace Runner

def of? (shell : List String) (limit : Option Nat) : Option Runner :=
  match shell with
  | program :: _ => if (Text.trim program.toList).isEmpty then none else some ⟨shell, limit⟩
  | [] => none

/-- What is said of a shell that names no program. -/
def blankMessage : String := "shell must name a program"

/-- What the end of a session means to the one who started it. -/
def result (session : Session) : CommandResult :=
  match session.flow with
  | .killed _ => ⟨none, false⟩
  | .timedOut => ⟨none, true⟩
  | _ => ⟨some (session.status % 256 : Nat), false⟩

/-- The error text of a command that cannot be started. -/
def unstarted (command : String) (fault : SpawnFault) : String :=
  "spawn \x60" ++ command ++ "\x60: " ++ fault.message

def run {σ : Type} (runner : Runner) (directory command : String) (tree : FileTree) (state : σ) : CommandRun σ :=
  let failed (fault : SpawnFault) : CommandRun σ :=
    { result := .error (unstarted command fault), tree := tree, state := state }
  match tree.locate directory, tree.enterFault? directory with
  | .ok location, none =>
    let session : Session := { name := "", tree := { tree with current := location }, limit := runner.limit }
    let session := { session with bindings := environment session.directory }
    match spawn ((runner.shell ++ [command]).map Bytes.ofText) (session.sleep 0) with
    | .error fault => failed fault
    | .ok ended =>
      { result := .ok (result ended), tree := { ended.tree with current := tree.current }, state := state,
        stdout := Text.decoded (ended.contentAt 1), stderr := Text.decoded (ended.contentAt 2) }
  | .error fault, _ => failed (.file fault)
  | _, some fault => failed (.file fault)

def host (runner : Runner) (registry : Registry) (directory : String) : Host Unit where
  directory := directory
  registry := registry
  run command tree state := runner.run directory command tree state

end Runner

end GuardedPlan.Shell
