import GuardedPlan.Shell.Session
import GuardedPlan.Shell.Signal

/-!
# One level further down

Commands run other scripts: functions, substitutions, subshells, texts that are evaluated. What a shell can do one level further down is handed to them from outside, so that every definition is by recursion on the script at hand. What runs apart from a session shares its files, channels and time, and nothing else.
-/

namespace GuardedPlan.Shell

/-- How a script is evaluated: whether its status is looked at, so that a failure does not end the shell, and whether it is the last thing that its process does. -/
structure Stance where
  isTested : Bool := false
  isLast : Bool := false

inductive LaunchFault where
  | notFound
  | permissionDenied
deriving DecidableEq, Repr

/-- A command with its arguments, as what it does to a session. -/
abbrev Utility := List String → Session → Session

/-- What a shell can do one level further down: evaluate a script or a text in the session itself, and find the program of a name, which is given a session of its own. -/
structure Deeper where
  evaluate : Stance → Script → Session → Session
  text : Stance → String → Session → Session
  program : String → Session → Except LaunchFault Utility

namespace Session

/-- The session after a signal came: it does nothing, waits to be dealt with or ends the session. -/
def receive (session : Session) (signal : Nat) : Session :=
  match session.flow with
  | .killed _ => session
  | .timedOut => session
  | _ =>
    if Signal.certain.contains signal then session.terminate signal
    else
      match session.traps.lookup signal with
      | some action =>
        if action = "" || session.pending.contains signal then session
        else { session with pending := session.pending ++ [signal] }
      | none => if Signal.harmless.contains signal then session else session.terminate signal

/-- The session with another one's files, channels, time and status, as they are after something that ran apart from it. -/
def afterApart (session ended : Session) : Session :=
  let after := { session with
    tree := { ended.tree with current := session.tree.current }
    channels := ended.channels
    processes := ended.processes
    elapsed := ended.elapsed
    status := match ended.flow with
      | .killed signal => 128 + signal
      | _ => ended.status % 256
    flow := match ended.flow with
      | .timedOut => .timedOut
      | _ => session.flow }
  if session.isSubshell then { after with sent := session.sent ++ ended.sent }
  else ended.sent.foldl receive after

/-- Says what ended a process, if it was a signal that is worth saying. -/
def mourn (session ended : Session) : Session :=
  match ended.flow with
  | .killed signal =>
    let text := Signal.obituary signal
    if text = "" then session else session.complain text
  | _ => session

/-- The session that a subshell begins with: no traps but those that ignore a signal, no jobs and no loops. -/
def asSubshell (session : Session) : Session :=
  { session with
    isSubshell := true
    traps := session.traps.filter fun (signal, action) => signal ≠ 0 && action = ""
    pending := []
    sent := []
    jobs := []
    loops := 0 }

/-- Runs what a session is to do at its end, unless it ended by force. Its exit code stays, unless that changes it. -/
def conclude (deeper : Deeper) (session : Session) : Session :=
  let forced : Bool := match session.flow with
    | .killed _ => true
    | .timedOut => true
    | _ => false
  match session.traps.lookup 0 with
  | none => session
  | some action =>
    if forced || action = "" then session
    else
      let traps := session.traps.filter fun (signal, _) => signal ≠ 0
      let ended := deeper.text {} action
        { session with traps := traps, saved := some session.status, loops := 0, flow := .running }
      match ended.flow with
      | .running => ended.exit session.status
      | .leaving _ _ => ended.exit session.status
      | .returning => ended.exit session.status
      | _ => ended

/-- Runs something in a session of its own, up to what it does at its end. -/
def apart (deeper : Deeper) (session : Session) (run : Session → Session) : Session :=
  (run session.asSubshell).conclude deeper

/-- Runs what is to be done for the signals that came; the status stays, unless the shell is left. -/
def heed (deeper : Deeper) (session : Session) : Session :=
  if session.pending.isEmpty || !session.isRunning then session
  else
    let signals := session.pending.mergeSort
    signals.foldl (fun session signal =>
      match session.traps.lookup signal, session.isRunning with
      | some action, true =>
        let status := session.status
        let ended := deeper.text {} action { session with saved := some status }
        let ended := { ended with saved := session.saved }
        if ended.isRunning then ended.finish status else ended
      | _, _ => session) { session with pending := [] }

/-- The output of something that runs apart, without the line breaks at its end. -/
def capture (deeper : Deeper) (session : Session) (run : Session → Session) : List Char × Session :=
  let place := session.channels.size
  let inside := (session.addChannel (.memory .empty 0)).connect 1 (some place)
  let ended := inside.apart deeper run
  let output := (Bytes.ofContent (ended.contentAt place)).toList.filter (· ≠ '\x00')
  let kept := (output.reverse.dropWhile (· = '\n')).reverse
  let after := ((session.afterApart ended).mourn ended).dropChannels session.channels.size
  (kept, { after with status := session.status, substituted := some after.status })

end Session

end GuardedPlan.Shell
