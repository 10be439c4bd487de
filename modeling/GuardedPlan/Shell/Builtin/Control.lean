import GuardedPlan.Shell.Builtin.Variable
import GuardedPlan.Shell.Program.Table

/-!
# Commands for the course of a shell

Leaving loops, functions and the shell, traps and signals, waiting for what runs in the background, and evaluating texts in the shell itself.
-/

namespace GuardedPlan.Shell

namespace Builtin

/-- Ends the shell with a code, or with the status. -/
def exit : Utility := fun arguments session =>
  match arguments with
  | [] => session.exit (session.saved.getD session.status)
  | code :: _ =>
    match number code with
    | .ok code => session.exit code
    | .error message => session.abort message

/-- Leaves a function or a file with a code, or with the status. -/
def leave : Utility := fun arguments session =>
  match (arguments.head?.elim (.ok session.status) number : Except String Nat) with
  | .ok code => { session with status := code, flow := .returning }
  | .error message => session.abort message

/-- Leaves loops, one unless a number is given, the last of which may go on. -/
def leaveLoops (goesOn : Bool) : Utility := fun arguments session =>
  match (arguments.head?.elim (.ok 1) number : Except String Nat) with
  | .error message => session.abort message
  | .ok 0 => session.abort ("Illegal number: " ++ arguments.headD "")
  | .ok levels =>
    let levels := min levels session.loops
    let session := session.finish 0
    if levels = 0 then session else { session with flow := .leaving levels goesOn }

/-! ### Traps and signals -/

def sortedTraps (session : Session) : List (Nat × String) :=
  session.traps.mergeSort fun a b => a.1 ≤ b.1

/-- Sets what is to be done for signals, or lists it. -/
def trap : Utility :=
  withOptions "" fun _ arguments session =>
    match arguments with
    | [] =>
      let row (signal : Nat) (action : String) : String :=
        "trap -- " ++ quoted action ++ " " ++ (if signal = 0 then "EXIT" else (Signal.name? signal).getD (toString signal)) ++
          "\n"
      (session.print (String.join ((sortedTraps session).map fun (signal, action) => row signal action))).finish 0
    | first :: rest =>
      let resets := rest.isEmpty || (Signal.decimal? first).isSome
      let action? := if resets || first = "-" then none else some first
      let signals := if resets then first :: rest else rest
      signals.foldl (fun session name =>
        if session.status ≠ 0 then session
        else
          match Signal.of? name with
          | none => (session.complain ("trap: " ++ name ++ ": bad trap")).finish 1
          | some signal =>
            let others := session.traps.filter fun (other, _) => other ≠ signal
            { session with traps := match action? with
              | some action => (signal, action) :: others
              | none => others }) (session.finish 0)

/-- The session after a process was sent a signal; nothing is answered when there is no such process. -/
def deliver? (session : Session) (signal process : Nat) : Option Session :=
  if process = Session.processId then
    some (if session.isSubshell then { session with sent := session.sent ++ [signal] } else session.receive signal)
  else
    match session.jobs.find? fun job => job.process = process with
    | none => none
    | some job =>
      let ends := !Signal.harmless.contains signal && job.script.isSome
      let after (other : Job) : Job :=
        if other.process = process && ends then
          { other with status := 128 + signal, script := none, finish := session.elapsed }
        else other
      some { session with jobs := session.jobs.map after }

def killUsage : String :=
  "Usage: kill [-s sigspec | -signum | -sigspec] [pid | job]... or\nkill -l [exitstatus]"

def send (signal : Nat) (processes : List String) (session : Session) : Session :=
  processes.foldl (fun session text =>
    if session.flow = .failed then session
    else
      let digits := if text.startsWith "-" then String.ofList (text.toList.drop 1) else text
      let process? : Except String Nat :=
        match text.toList with
        | '%' :: _ =>
          match session.jobs.getLast? with
          | some job => .ok job.process
          | none => .error ("No such job: " ++ text)
        | _ => number digits
      match process? with
      | .error message => session.abort message
      | .ok process =>
        let process := if process = 0 then Session.processId else process
        match deliver? session signal process with
        | some session => session
        | none => (session.report "No such process\n").finish 1) (session.finish 0)

/-- Lists the names of signals, or the name of one by its number or by the status that it leads to. -/
def signalNames (arguments : List String) (session : Session) : Session :=
  match arguments with
  | [] =>
    let rows := "0" :: (List.range 64).map fun index => (Signal.name? (index + 1)).getD (toString (index + 1))
    (session.print (String.join (rows.map (· ++ "\n")))).finish 0
  | text :: _ =>
    match number text with
    | .error message => session.abort message
    | .ok status =>
      let signal := if 128 < status then status - 128 else status
      if 0 < signal && signal ≤ 64 then (session.print ((Signal.name? signal).getD (toString signal) ++ "\n")).finish 0
      else session.abort ("invalid signal number or exit status: " ++ text)

/-- Sends a signal, the one to terminate unless another is named. -/
def kill : Utility := fun arguments session =>
  let sent (signal : Nat) (processes : List String) : Session :=
    if processes.isEmpty then session.abort killUsage else send signal processes session
  match arguments with
  | [] => session.abort killUsage
  | "--" :: processes => sent Signal.terminate processes
  | "-l" :: rest => signalNames rest session
  | ["-s"] => session.abort "No arg for -s option"
  | "-s" :: name :: processes =>
    let processes := if processes.head? = some "--" then processes.drop 1 else processes
    match Signal.of? name with
    | some signal => sent signal processes
    | none => session.abort ("invalid signal number or name: " ++ name)
  | first :: processes =>
    match first.toList with
    | '-' :: c :: name =>
      match Signal.of? (String.ofList (c :: name)) with
      | some signal => sent signal processes
      | none =>
        if c = 's' then
          match Signal.of? (String.ofList name) with
          | some signal => sent signal processes
          | none => session.abort ("invalid signal number or name: " ++ String.ofList name)
        else session.abort ("Illegal option -" ++ String.ofList [c])
    | _ => sent Signal.terminate (first :: processes)

/-! ### The background -/

def settle (deeper : Deeper) (session : Session) (job : Job) : Session :=
  let settled (session : Session) (status : Nat) : Session :=
    { session with
      jobs := session.jobs.map fun other =>
        if other.process = job.process then { other with status := status, script := none } else other }
  match job.script with
  | none => if session.elapsed < job.finish then session.sleep (job.finish - session.elapsed) else session
  | some script =>
    let start := { session with bindings := job.bindings, elapsed := job.finish }
    let ended := start.apart deeper (deeper.evaluate { isLast := true } script)
    let after := (session.afterApart ended).mourn ended
    settled { after with elapsed := max session.elapsed ended.elapsed } after.status

/-- Waits for jobs and takes the status of the last one that is named. -/
def wait (deeper : Deeper) : Utility :=
  withOptions "" fun _ arguments session =>
    if arguments.isEmpty then
      let ended := session.jobs.foldl (fun session job => if session.isRunning then settle deeper session job else session) session
      { ended with jobs := [] }.finish 0
    else
      arguments.foldl (fun session text =>
        if !session.isRunning then session
        else
          let process? : Except String (Option Nat) :=
            match text.toList with
            | '%' :: _ => .ok (session.jobs.getLast?.map Job.process)
            | _ => (number text).map some
          match process? with
          | .error message => session.abort message
          | .ok process? =>
            match session.jobs.find? fun job => some job.process = process? with
            | none => session.finish 127
            | some job =>
              let settled := settle deeper session job
              let status := ((settled.jobs.find? fun other => other.process = job.process).map Job.status).getD 127
              let settled := if job.script.isNone && 128 < status then
                  settled.mourn { settled with flow := .killed (status - 128) }
                else settled
              settled.finish status) (session.finish 0)

/-- Lists jobs, of which those that are over are not worth a word. -/
def jobs : Utility := fun _ session =>
  session.finish 0

/-- Brings a job to the foreground, of which there is none that could be. -/
def resume : Utility := fun arguments session =>
  session.abort (arguments.head?.elim "No current job" fun text => "No such job: " ++ text)

/-! ### Texts -/

def eval (deeper : Deeper) (stance : Stance) : Utility := fun arguments session =>
  match arguments with
  | [] => session.finish 0
  | arguments =>
    let arguments := if arguments.head? = some "--" then arguments.drop 1 else arguments
    deeper.text { isTested := stance.isTested } (" ".intercalate arguments) session

def source (deeper : Deeper) : Utility := fun arguments session =>
  let arguments := if arguments.head? = some "--" then arguments.drop 1 else arguments
  match arguments with
  | [] => session.finish 0
  | name :: _ =>
    let path? : Except String String :=
      if name.toList.contains '/' then .ok name
      else
        let path := (session.value? "PATH").getD Program.defaultPath
        let places := (path.splitOn ":").map fun directory =>
          if directory = "" then name else Utility.inside directory name
        match places.find? session.isFile with
        | some place => .ok place
        | none => .error (name ++ ": not found")
    match path? with
    | .error message => session.abort message
    | .ok path =>
      match session.content path with
      | .error fault =>
        let reason := match fault with
          | .notFound => "No such file"
          | .notDirectory => "No such file"
          | fault => fault.reason
        session.abort ("cannot open " ++ path ++ ": " ++ reason)
      | .ok text =>
        let ended := deeper.text {} text { session with command := some path }
        if ended.flow = .returning then { ended with flow := .running } else ended

end Builtin

end GuardedPlan.Shell
