import GuardedPlan.Execution.Basic
import GuardedPlan.Template

/-!
# Applying operations

An operation writes below the working directory, where it makes the directories it needs, or hands a command to the host. A path that leaves the working directory is refused here too, even though no such plan passes preflight.
-/

namespace GuardedPlan

inductive OpFault where
  | unstarted (message : String)
  | timedOut (command : String)
  | exited (command : String) (code : Option Int)
  | escapes (path : String)
  | makingDirectory (path : String) (fault : FileFault)
  | opening (path : String) (fault : FileFault)
  | writing (path : String) (fault : FileFault)
  | template (message : String)
deriving DecidableEq, Repr

def OpFault.message : OpFault → String
  | unstarted message => message
  | timedOut command => "\x60" ++ command ++ "\x60 timed out"
  | exited command code => "\x60" ++ command ++ "\x60 exited with " ++ CommandResult.codeText code
  | escapes path => "refusing to write outside the working directory: " ++ path
  | makingDirectory path fault => "create directory " ++ path ++ ": " ++ fault.message
  | opening path fault => "open " ++ path ++ ": " ++ fault.message
  | writing path fault => "write " ++ path ++ ": " ++ fault.message
  | template message => message

namespace FileTree

/-- Makes the directory that is to hold a path below a directory. -/
def prepare (tree : FileTree) (directory path : String) : Except OpFault Unit × FileTree :=
  if Path.isContained path then
    match Path.parent? (Path.below directory path) with
    | none => (.ok (), tree)
    | some parent =>
      match tree.makeDirectories parent with
      | (.ok (), tree) => (.ok (), tree)
      | (.error fault, tree) => (.error (.makingDirectory parent fault), tree)
  else (.error (.escapes path), tree)

def writeBelow (tree : FileTree) (directory path content : String) : Except OpFault Unit × FileTree :=
  match tree.prepare directory path with
  | (.error fault, tree) => (.error fault, tree)
  | (.ok (), tree) =>
    let place := Path.below directory path
    match tree.write place content.toUTF8 with
    | .ok tree => (.ok (), tree)
    | .error fault => (.error (.writing place fault), tree)

/-- Adds a text at the end of a file below a directory. -/
def appendBelow (tree : FileTree) (directory path content : String) : Except OpFault Unit × FileTree :=
  match tree.prepare directory path with
  | (.error fault, tree) => (.error fault, tree)
  | (.ok (), tree) =>
    let place := Path.below directory path
    match tree.append place content.toUTF8 with
    | .ok tree => (.ok (), tree)
    | .error fault => (.error (.opening place fault), tree)

end FileTree

def Op.apply {σ : Type} (op : Op) (host : Host σ) (target : String) (world : World σ) :
    Except OpFault Unit × World σ :=
  match op with
  | .run command =>
    match host.command command world with
    | (.error message, world) => (.error (.unstarted message), world)
    | (.ok result, world) =>
      if result.timedOut then (.error (.timedOut command), world)
      else if result.succeeded then (.ok (), world)
      else (.error (.exited command result.code), world)
  | .writeFile path content =>
    let (result, tree) := world.tree.writeBelow host.directory path content
    (result, world.withTree tree)
  | .appendFile path content =>
    let (result, tree) := world.tree.appendBelow host.directory path content
    (result, world.withTree tree)
  | .writeTemplate path template vars =>
    match host.registry.template world.tree target template with
    | .error message => (.error (.template message), world)
    | .ok source =>
      let (result, tree) := world.tree.writeBelow host.directory path (Template.render vars.entries source)
      (result, world.withTree tree)

theorem Op.logsOnly_apply {σ : Type} (op : Op) (host : Host σ) (target : String) (world : World σ) :
    world.LogsOnly op.command? (op.apply host target world).2 := by
  cases op with
  | run command =>
    have hran := host.logsOnly_command command world
    rw [apply]
    cases hcommand : host.command command world with
    | mk result after =>
      rw [hcommand] at hran
      cases result with
      | error message => exact hran
      | ok result =>
        dsimp only
        split
        · exact hran
        · split
          · exact hran
          · exact hran
  | writeFile path content => exact World.logsOnly_of_log_eq rfl _
  | appendFile path content => exact World.logsOnly_of_log_eq rfl _
  | writeTemplate path template vars =>
    rw [apply]
    cases host.registry.template world.tree target template with
    | error message => exact World.logsOnly_of_log_eq rfl _
    | ok source => exact World.logsOnly_of_log_eq rfl _

end GuardedPlan
