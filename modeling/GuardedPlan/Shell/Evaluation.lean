import GuardedPlan.Shell.Builtin.Query
import GuardedPlan.Shell.Redirection

/-!
# Evaluating scripts

A simple command is evaluated in steps: its words are expanded, its redirections are applied, its variables are set, and then a command of the shell, a function or a program runs. A failing command ends a session that stops on failure, unless its status is looked at: in a condition, before `&&` and `||`, and after `!`.
-/

namespace GuardedPlan.Shell

namespace Session

/-- Ends a session that stops on failure after a command that failed, unless that is looked at. -/
def check (session : Session) (stance : Stance) : Session :=
  let counts : Bool := match session.flow with
    | .running => true
    | .returning => true
    | _ => false
  if session.isSet 'e' && !stance.isTested && counts && session.status ≠ 0 then session.exit session.status else session

def hasTraps (session : Session) : Bool :=
  session.traps.any fun (_, action) => action ≠ ""

/-- Evaluates a text line by line in the session itself; a text without commands leaves the status zero. -/
def evaluateLines (evaluate : Stance → Script → Session → Session) (stance : Stance) :
    Nat → Bool → Source → Session → Session
  | 0, _, _, session => session
  | fuel + 1, isEmpty, source, session =>
    match Script.line source with
    | .error mistake => { session with line := mistake.line }.abort mistake.fault.message
    | .ok (none, _) => if isEmpty then session.finish 0 else session
    | .ok (some .nothing, source) => evaluateLines evaluate stance fuel isEmpty source session
    | .ok (some script, source) =>
      let ended := evaluate { stance with isLast := false } script session
      if ended.isRunning then evaluateLines evaluate stance fuel false source ended else ended

def evaluateText (evaluate : Stance → Script → Session → Session) (stance : Stance) (text : String)
    (session : Session) : Session :=
  evaluateLines evaluate stance (text.length + 1) true { rest := text.toList } session

/-! ### Loops -/

/-- The session after a round of a loop, and whether the loop goes on. -/
def afterRound (session : Session) : Session × Bool :=
  match session.flow with
  | .running => (session, true)
  | .leaving levels goesOn =>
    if levels ≤ 1 then ({ session with flow := .running }, goesOn)
    else ({ session with flow := .leaving (levels - 1) goesOn }, false)
  | _ => (session, false)

/-- How often a loop goes round at most; one that goes on longer counts as running for ever. -/
def maxRounds : Nat := 200000

/-- Goes round a loop as long as its condition gives the wanted outcome. -/
def rounds (wanted : Bool) (condition body : Session → Session) : Nat → Nat → Session → Session
  | 0, _, session => { session with flow := .timedOut }
  | fuel + 1, status, session =>
    let tested := condition session
    match tested.flow with
    | .running =>
      if (tested.status = 0) ≠ wanted then tested.finish status
      else
        let (after, goesOn) := (body tested).afterRound
        if goesOn then rounds wanted condition body fuel after.status after else after
    | .leaving _ _ =>
      let (after, goesOn) := tested.afterRound
      if goesOn then rounds wanted condition body fuel status after else after.finish status
    | _ => tested

/-- Goes round a loop for each value of its variable. -/
def eachRound (name : String) (body : Session → Session) : List String → Session → Session
  | [], session => session
  | value :: rest, session =>
    let assigned := session.assign name value
    if assigned.isRunning then
      let (after, goesOn) := (body assigned).afterRound
      if goesOn then eachRound name body rest after else after
    else assigned

/-- Runs the body of a loop in a session that counts the loops around it. -/
def inLoop (session : Session) (run : Session → Session) : Session :=
  { run { session with loops := session.loops + 1 } with loops := session.loops }

/-! ### Words of commands -/

/-- The commands whose arguments may assign variables. -/
def assigners : List String :=
  ["alias", "export", "local", "readonly"]

/-- Expands the words of a command. Behind the name of one that assigns variables, words that do so are expanded as values. -/
def commandWords (deeper : Deeper) (isOpen assigns : Bool) : List Word → Session → List String × Session
  | [], session => ([], session)
  | word :: rest, session =>
    let (found, session) := match assigns, Word.assignment? word with
      | true, some (name, value) =>
        let (text, session) := Expansion.value deeper value session
        ([name ++ "=" ++ text], session)
      | _, _ => Expansion.fields deeper word session
    let name? := found.find? (· ≠ "command")
    let isOpen' := isOpen && name?.isNone
    let assigns' := assigns || (isOpen && name?.any assigners.contains)
    if session.isRunning then
      let (more, session) := commandWords deeper isOpen' assigns' rest session
      (found ++ more, session)
    else ([], session)

/-- The command behind words that only pass it on, and whether there were any; options that ask something about it stay. -/
def unwrapped : List String → List String × Bool
  | "command" :: rest =>
    let rest' := match rest with
      | "-p" :: more => more
      | "--" :: more => more
      | more => more
    match rest' with
    | [] => ([], true)
    | first :: more =>
      if first.startsWith "-" && first ≠ "-" then ("command" :: first :: more, false)
      else
        match rest with
        | "-p" :: _ => (rest', true)
        | "--" :: _ => (rest', true)
        | rest => ((unwrapped rest).1, true)
  | words => (words, false)

/-- Gives variables values one after another, and tells what they were before. -/
def assignAll (deeper : Deeper) (isTemporary : Bool) : List (String × Word) → Session →
    List (String × Option Variable) × List String × Session
  | [], session => ([], [], session)
  | (name, word) :: rest, session =>
    let (value, session) := Expansion.value deeper word session
    if !session.isRunning then ([], [], session)
    else
      let before := session.bindings.get? name
      let session := session.assign name value
      if !session.isRunning then ([], [], session)
      else
        let session := if isTemporary then
            session.setVariable name { session.variableOf name with isExported := true }
          else session
        let (befores, shown, session) := assignAll deeper isTemporary rest session
        ((name, before) :: befores, (name ++ "=" ++ value) :: shown, session)

def reinstate (befores : List (String × Option Variable)) (session : Session) : Session :=
  befores.foldr (fun (name, before) session =>
    match before with
    | some found => session.setVariable name found
    | none => { session with bindings := session.bindings.erase name }) session

/-- Shows a command that is about to run, where errors went before it. -/
def trace (session before : Session) (shown : List String) : Session :=
  if session.isSet 'x' && !shown.isEmpty then
    let lead := (session.value? "PS4").getD "+ "
    let written := { session with descriptors := before.descriptors }.complain (lead ++ " ".intercalate shown)
    { written with descriptors := session.descriptors }
  else session

/-! ### Running commands -/

def call (deeper : Deeper) (stance : Stance) (function : Function) (arguments : List String) (session : Session) : Session :=
  let inside := { session with
    arguments := arguments, loops := 0, function := function.line, locals := [] :: session.locals
    optionPlace := (1, 0) }
  let ended := deeper.evaluate { isTested := stance.isTested } function.body inside
  let frame := ended.locals.headD []
  let ended := reinstate frame.reverse ended
  { ended with
    arguments := session.arguments, loops := session.loops, function := session.function, locals := session.locals
    optionPlace := session.optionPlace
    flow := match ended.flow with
      | .returning => .running
      | flow => flow }

def unlaunched (session : Session) (name : String) : LaunchFault → Session
  | .notFound => (session.report (name ++ ": not found")).finish 127
  | .permissionDenied => (session.report (name ++ ": Permission denied")).finish 126

/-- Runs a program in place of the shell. -/
def become (run : Utility) (arguments : List String) (session : Session) : Session :=
  let ended := run arguments { session with traps := session.traps.filter fun (_, action) => action = "" }
  match ended.flow with
  | .killed _ => ended
  | .timedOut => ended
  | _ => ended.exit (ended.status % 256)

def launch (run : Utility) (arguments : List String) (session : Session) : Session :=
  let ended := run arguments session
  ((session.afterApart ended).mourn ended).receive 17

/-- Runs a program by name; the last thing that a process does takes its place. -/
def runProgram (deeper : Deeper) (stance : Stance) (name : String) (arguments : List String) (session : Session) : Session :=
  match deeper.program name session with
  | .error fault => session.unlaunched name fault
  | .ok run =>
    if stance.isLast && !session.hasTraps then become run arguments session else launch run arguments session

/-- Runs a command that the shell has itself. If it fails, that ends the shell only if the command is special. -/
def runBuiltin (utility : Utility) (name : String) (isSpecial : Bool) (arguments : List String) (session : Session) : Session :=
  let ended := utility arguments { session with command := some name }
  let ended := { ended with command := session.command }
  if ended.flow = .failed && !isSpecial then { ended with flow := .running } else ended

/-- Runs a program in place of the shell for good. -/
def replace (deeper : Deeper) (name : String) (arguments : List String) (session : Session) : Session :=
  match deeper.program name session with
  | .ok run => become run arguments session
  | .error fault =>
    let ended := { session with command := some "exec" }.unlaunched name fault
    ended.exit ended.status

/-- The words of a command, its name first, without those that only pass it on. -/
structure Invoked where
  name : String
  arguments : List String
  isPlain : Bool

/-- Whether an invoked command is special: it keeps the variables it is given, and a failure of it ends the shell. -/
def Invoked.isSpecial (invoked : Invoked) : Bool :=
  invoked.isPlain && Builtin.specialNames.contains invoked.name

def invoke (deeper : Deeper) (stance : Stance) (invoked : Invoked) (session : Session) : Session :=
  let name := invoked.name
  if name = "exec" then
    match if invoked.arguments.head? = some "--" then invoked.arguments.drop 1 else invoked.arguments with
    | [] => session.finish 0
    | program :: arguments => session.replace deeper program arguments
  else
    let function? := if invoked.isPlain && !Builtin.specialNames.contains name then session.functions.get? name else none
    match function?, Builtin.find? deeper stance name with
    | some function, _ => session.call deeper stance function invoked.arguments
    | none, some utility => session.runBuiltin utility name invoked.isSpecial invoked.arguments
    | none, none => session.runProgram deeper stance name invoked.arguments

def simple (deeper : Deeper) (stance : Stance) (assignments : List (String × Word)) (words : List Word)
    (redirections : List Redirection) (session : Session) : Session :=
  let (names, session) := commandWords deeper true false words { session with substituted := none }
  if !session.isRunning then session
  else
    let (connections, session) := connections deeper redirections session
    if !session.isRunning then session
    else
      let (fault, redirected) := applyAll connections session
      let descriptors := redirections.map Redirection.descriptor
      let invoked? : Option Invoked := match unwrapped names with
        | (name :: arguments, wasWrapped) => some ⟨name, arguments, !wasWrapped⟩
        | ([], _) => none
      let isSpecial := invoked?.any Invoked.isSpecial
      match fault, invoked? with
      | some message, _ =>
        let restored := { redirected with descriptors := session.descriptors }.dropChannels session.channels.size
        if isSpecial then restored.abort message else (restored.report message).finish 2
      | none, none =>
        let (_, shown, assigned) := assignAll deeper false assignments redirected
        let assigned := assigned.trace session (shown ++ names)
        let restored := assigned.restore session descriptors
        if restored.isRunning then restored.finish (restored.substituted.getD 0) else restored
      | none, some invoked =>
        let isExec := invoked.name = "exec"
        let (befores, shown, assigned) := assignAll deeper (!isSpecial || isExec) assignments redirected
        if !assigned.isRunning then assigned.restore session descriptors
        else
          let ended := (assigned.trace session (shown ++ names)).invoke deeper stance invoked
          let ended := if isExec then ended else ended.restore session descriptors
          if isSpecial then ended else reinstate befores ended

def around (deeper : Deeper) (redirections : List Redirection) (run : Session → Session) (session : Session) : Session :=
  let (connections, session) := connections deeper redirections session
  if !session.isRunning then session
  else
    let (fault, redirected) := applyAll connections session
    match fault with
    | some message =>
      let restored := { redirected with descriptors := session.descriptors }.dropChannels session.channels.size
      ((restored.report message).finish 2).check {}
    | none => (run redirected).restore session (redirections.map Redirection.descriptor)

/-- The session after something that ran apart from it and that it waited for. -/
def waited (session ended : Session) : Session :=
  (session.afterApart ended).mourn ended

/-! ### The background -/

/-- Whether a session stopped because time would have gone by. -/
def hasStopped (session : Session) : Bool :=
  session.flow = .timedOut

/-- Goes on with a script for as long as no time goes by, and tells what is left of it. -/
def goOn (deeper : Deeper) : Script → Session → Option Script × Session
  | .sequence first second, session =>
    match goOn deeper first session with
    | (some rest, session) => (some (.sequence rest second), session)
    | (none, session) => if session.isRunning then goOn deeper second session else (none, session)
  | .subshell body, session =>
    match goOn deeper body session with
    | (some rest, session) => (some rest, session)
    | (none, session) => (none, session)
  | script, session =>
    let ended := deeper.evaluate {} script { session with limit := some (session.elapsed + 1) }
    if ended.hasStopped then (some script, session) else (none, { ended with limit := session.limit })

def spawn (deeper : Deeper) (script : Script) (session : Session) : Session :=
  let process := session.processes + 1
  let numbered := { session with processes := process }
  let place := numbered.channels.size
  let inside := ((numbered.addChannel .nothing).connect 0 (some place)).asSubshell
  let (rest?, ended) := goOn deeper script inside
  let ended := if rest?.isSome then ended else ended.conclude deeper
  let after := numbered.afterApart ended
  let job : Job :=
    { process := processId + process, status := after.status, finish := ended.elapsed, script := rest?,
      bindings := ended.bindings }
  { after with status := 0, elapsed := session.elapsed, flow := session.flow, jobs := session.jobs ++ [job] }

end Session

namespace Script

mutual

def evaluate (deeper : Deeper) : Script → Stance → Session → Session
  | script, stance, session =>
    let session := session.heed deeper
    if !session.isRunning || session.isSet 'n' then session
    else
      let ended := match script with
        | .nothing => session
        | .simple line assignments words redirections =>
          ({ session with line := line - (session.function - 1) }.simple deeper stance assignments words
            redirections).check stance
        | .redirected line body redirections =>
          { session with line := line - (session.function - 1) }.around deeper redirections
            (evaluate deeper body { isTested := stance.isTested })
        | .sequence first second =>
          let done := evaluate deeper first { isTested := stance.isTested } session
          if done.isRunning then evaluate deeper second stance done else done
        | .both first second =>
          let done := evaluate deeper first { isTested := true } session
          if done.isRunning && done.status = 0 then evaluate deeper second stance done else done
        | .either first second =>
          let done := evaluate deeper first { isTested := true } session
          if done.isRunning && done.status ≠ 0 then evaluate deeper second stance done else done
        | .negated body =>
          let done := evaluate deeper body { isTested := true } session
          if done.isRunning then done.finish (if done.status = 0 then 1 else 0) else done
        | .pipe source target =>
          let place := session.channels.size
          let left := (session.addChannel (.memory .empty 0)).connect 1 (some place)
          let inside : Stance := { isTested := stance.isTested, isLast := true }
          let sent := left.apart deeper (evaluate deeper source inside)
          let between := session.waited sent
          let right := { between with elapsed := session.elapsed }.connect 0 (some place)
          let received := match target with
            | .pipe _ _ => evaluate deeper target { isTested := true } right
            | _ => right.waited (right.apart deeper (evaluate deeper target inside))
          let after := received.restore session [0]
          ({ after with
            elapsed := max between.elapsed after.elapsed
            flow := if between.hasStopped && after.elapsed < between.elapsed then .timedOut else after.flow }).check stance
        | .subshell body =>
          if stance.isLast && !session.hasTraps then
            let ended := evaluate deeper body stance { session with loops := 0 }
            match ended.flow with
            | .killed _ => ended
            | .timedOut => ended
            | _ => ended.exit ended.status
          else
            (session.waited (session.apart deeper
              (evaluate deeper body { isTested := stance.isTested, isLast := true }))).check stance
        | .background body => session.spawn deeper body
        | .conditional condition body otherwise =>
          let tested := evaluate deeper condition { isTested := true } session
          if !tested.isRunning then tested
          else if tested.status = 0 then evaluate deeper body stance tested
          else
            match otherwise with
            | .nothing => tested.finish 0
            | otherwise => evaluate deeper otherwise stance tested
        | .loop wanted condition body =>
          session.inLoop (Session.rounds wanted (evaluate deeper condition { isTested := true })
            (evaluate deeper body { isTested := stance.isTested }) Session.maxRounds 0)
        | .each line name words body =>
          let (values, expanded) :=
            Expansion.allFields deeper words { session with line := line - (session.function - 1) }
          if expanded.isRunning then
            (expanded.finish 0).inLoop (Session.eachRound name (evaluate deeper body { isTested := stance.isTested }) values)
          else expanded
        | .choice line word arms =>
          let (text, expanded) := Expansion.text deeper word { session with line := line - (session.function - 1) }
          if expanded.isRunning then Arms.evaluate deeper arms text stance expanded else expanded
        | .define line name body =>
          { session with functions := session.functions.insert name ⟨line, body⟩ }.finish 0
      ended.heed deeper

def Arms.evaluate (deeper : Deeper) : Arms → String → Stance → Session → Session
  | .none, _, _, session => session.finish 0
  | .arm patterns body rest, text, stance, session =>
    let (fits, session) := patterns.foldl (fun (fits, session) pattern =>
      if fits || !session.isRunning then (fits, session)
      else
        let (glyphs, session) := Expansion.word deeper { splits := false } pattern session
        (Glyph.fits glyphs text, session)) (false, session)
    if !session.isRunning then session
    else if fits then
      match body with
      | .nothing => session.finish 0
      | body => evaluate deeper body stance session
    else Arms.evaluate deeper rest text stance session

end

end Script

end GuardedPlan.Shell
