import GuardedPlan.FileTree.Basic
import GuardedPlan.Registry.Basic

/-!
# What an execution works with

A host offers a registry and commands; a world is the file tree, the rest of the state of the host and the log of what happened so far. The texts that an execution prints, its warnings and its commands are all read off the log.
-/

namespace GuardedPlan

/-- What a command came to: its exit code, unless a signal ended it, and whether it ran out of time. -/
structure CommandResult where
  code : Option Int
  timedOut : Bool
deriving DecidableEq, Repr

namespace CommandResult

def succeeded (result : CommandResult) : Bool :=
  !result.timedOut && result.code = some 0

def codeText (code : Option Int) : String :=
  match code with
  | some code => "Some(" ++ toString code ++ ")"
  | none => "None"

end CommandResult

/-- What running a command leaves behind; the result is an error text when the command could not be started. -/
structure CommandRun (σ : Type) where
  result : Except String CommandResult
  tree : FileTree
  state : σ
  stdout : String := ""
  stderr : String := ""

/-- The surroundings of an execution. The type `σ` is the state that commands may change besides the file tree. -/
structure Host (σ : Type) where
  directory : String
  registry : Registry
  run : (command : String) → FileTree → σ → CommandRun σ

/-- An operation or a check of a step. -/
inductive Item where
  | op (op : Op)
  | check (check : Check)
deriving DecidableEq, Repr

def Item.command? : Item → Option String
  | op action => action.command?
  | check proof => proof.command?

/-- The items of a step: its operations in order and then its checks in order. -/
def Step.items (step : Step) : List Item :=
  step.ops.map .op ++ step.checks.map .check

/-- Something that happened in an execution. -/
inductive Event where
  | began (step : String)
  | attempted (step : String) (item : Item)
  | ran (command stdout stderr : String)
  | warned (step message : String)
  | finished (step : String) (item : Item)
deriving DecidableEq, Repr

namespace Event

def warning (step message : String) : String :=
  "step '" ++ step ++ "': " ++ message

/-- What an event puts on standard output. -/
def printed : Event → String
  | began step => "==> step " ++ step ++ "\n"
  | warned step message => "warning: " ++ warning step message ++ "\n"
  | ran _ stdout _ => stdout
  | attempted .. => ""
  | finished .. => ""

/-- What an event puts on standard error. -/
def complained : Event → String
  | ran _ _ stderr => stderr
  | _ => ""

end Event

/-- The state of an execution. -/
structure World (σ : Type) where
  tree : FileTree
  state : σ
  log : List Event := []

namespace World

variable {σ : Type}

def record (world : World σ) (event : Event) : World σ :=
  { world with log := world.log ++ [event] }

def withTree (world : World σ) (tree : FileTree) : World σ :=
  { world with tree := tree }

/-- The commands that were handed to the host, in order. -/
def commands (world : World σ) : List String :=
  world.log.filterMap fun
    | .ran command _ _ => some command
    | _ => none

def warnings (world : World σ) : List String :=
  world.log.filterMap fun
    | .warned step message => some (Event.warning step message)
    | _ => none

def stdout (world : World σ) : String :=
  String.join (world.log.map Event.printed)

def stderr (world : World σ) : String :=
  String.join (world.log.map Event.complained)

end World

/-- Between two worlds nothing was logged but runs of a command, if there is one. -/
def World.LogsOnly {σ : Type} (before : World σ) (command : Option String) (after : World σ) : Prop :=
  ∃ ran, after.log = before.log ++ ran ∧
    ∀ event ∈ ran, ∃ line stdout stderr, command = some line ∧ event = .ran line stdout stderr

theorem World.logsOnly_of_log_eq {σ : Type} {before after : World σ} (h : after.log = before.log)
    (command : Option String) : before.LogsOnly command after :=
  ⟨[], by rw [h, List.append_nil], by simp⟩

def Host.command {σ : Type} (host : Host σ) (command : String) (world : World σ) :
    Except String CommandResult × World σ :=
  let ran := host.run command world.tree world.state
  (ran.result, { tree := ran.tree, state := ran.state, log := world.log ++ [.ran command ran.stdout ran.stderr] })

theorem Host.logsOnly_command {σ : Type} (host : Host σ) (command : String) (world : World σ) :
    world.LogsOnly (some command) (host.command command world).2 :=
  ⟨_, rfl, by simp⟩

end GuardedPlan
