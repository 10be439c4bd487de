import GuardedPlan.Shell.Program.Value
import GuardedPlan.Shell.Setting

/-!
# Programs that run others

Each of them changes something for the program that it runs: its variables, its arguments, its time. A shell is one of them; it runs a text.
-/

namespace GuardedPlan.Shell

namespace Utility

/-- Runs a program in place of this one, or says why that cannot be done. -/
def become (deeper : Deeper) (command : List String) (session : Session) : Session :=
  match command with
  | [] => session.finish 0
  | name :: arguments =>
    match deeper.program name session with
    | .ok run => run arguments session
    | .error .notFound => session.refuse 127 (Session.quoted name ++ ": " ++ FileFault.notFound.reason)
    | .error .permissionDenied => session.refuse 126 (Session.quoted name ++ ": " ++ FileFault.permissionDenied.reason)

def env (deeper : Deeper) : Utility :=
  withOptions { plain := "i0v", valued := "uCS", named := [("ignore-environment", 'i'), ("unset", 'u'), ("chdir", 'C'),
    ("null", '0')], mixes := false } 125 fun request session =>
    let operands := match request.operands with
      | "-" :: rest => rest
      | operands => operands
    let bindings := if request.has 'i' || request.operands.head? = some "-" then Table.empty else session.bindings
    let bindings := (request.values 'u').foldl Table.erase bindings
    let given := operands.takeWhile fun text => text.toList.contains '='
    let bindings := given.foldl (fun bindings text =>
      let name := text.toList.takeWhile (· ≠ '=')
      bindings.insert (String.ofList name)
        { value := some (String.ofList (text.toList.drop (name.length + 1))), isExported := true }) bindings
    let session := { session with bindings := bindings }
    let entered? := match request.value? 'C' with
      | none => some session.tree
      | some path =>
        match session.tree.locate (Bytes.toText path), session.isDirectory path with
        | .ok location, true => some { session.tree with current := location }
        | _, _ => none
    match entered?, operands.drop given.length with
    | none, _ => session.refuse 125 ("cannot change directory to " ++ Session.quoted ((request.value? 'C').getD "") ++ ": " ++
        FileFault.notFound.reason)
    | some _, [] =>
      let ending := if request.has '0' then "\x00" else "\n"
      (session.finish 0).put (String.join (session.environment.map fun (name, value) => name ++ "=" ++ value ++ ending))
    | some tree, command => become deeper command { session with tree := tree }

def passing (valued : String) (deeper : Deeper) : Utility :=
  withOptions { plain := "cfw", valued := valued, mixes := false } 125 fun request session =>
    if request.operands.isEmpty then lacking "operand" session else become deeper request.operands session

/-- Runs a program for as long as a limit lets it. -/
def timeout (deeper : Deeper) : Utility :=
  withOptions { plain := "vfp", valued := "ks", named := [("signal", 's'), ("kill-after", 'k'), ("preserve-status", 'p'),
    ("foreground", 'f'), ("verbose", 'v')], mixes := false } 125 fun request session =>
    match request.operands with
    | time :: command =>
      match duration? time with
      | none => session.misused 125 ("invalid time interval " ++ Session.quoted time)
      | some span =>
        if command.isEmpty then lacking "operand" session |>.finish 125
        else if span = 0 then become deeper command session
        else
          let finish := session.elapsed + span
          if session.limit.any (· ≤ finish) then become deeper command session
          else
            let ended := become deeper command { session with limit := some finish }
            match ended.flow with
            | .timedOut =>
              let signal := ((request.value? 's').bind Signal.of?).getD Signal.terminate
              { ended with
                limit := session.limit, flow := .running
                status := if request.has 'p' then 128 + signal else if signal = 9 then 137 else 124 }
            | _ => { ended with limit := session.limit }
    | [] => lacking "operand" session |>.finish 125

/-! ### Arguments from input -/

/-- The arguments in a text, split at white space outside of quotes; nothing is answered for a quote without an end. -/
def inputWords : Nat → List Char → Option (List Char) → Option (List String)
  | 0, _, _ => some []
  | _ + 1, [], word => some (word.elim [] fun chars => [String.ofList chars.reverse])
  | fuel + 1, c :: rest, word =>
    let isSpace (c : Char) : Bool := c = ' ' || ('\t' ≤ c && c ≤ '\r')
    if isSpace c then
      match word with
      | some chars => (inputWords fuel rest none).map (String.ofList chars.reverse :: ·)
      | none => inputWords fuel rest none
    else if c = '\'' || c = '"' then
      let inside := rest.takeWhile fun other => other ≠ c && other ≠ '\n'
      if (rest.drop inside.length).head? = some c then
        inputWords fuel (rest.drop (inside.length + 1)) (some (inside.reverse ++ word.getD []))
      else none
    else
      match c, rest with
      | '\\', next :: rest => inputWords fuel rest (some (next :: word.getD []))
      | c, rest => inputWords fuel rest (some (c :: word.getD []))

def grouped {α : Type} (size : Nat) : Nat → List α → List (List α)
  | 0, _ => []
  | fuel + 1, items =>
    if items.isEmpty then [] else items.take (max size 1) :: grouped size fuel (items.drop (max size 1))

def xargs (deeper : Deeper) : Utility :=
  withOptions { plain := "0rtpxo", valued := "nIdLPsEae", named := [("null", '0'), ("no-run-if-empty", 'r'),
    ("max-args", 'n'), ("replace", 'I'), ("delimiter", 'd'), ("max-procs", 'P'), ("max-lines", 'L'), ("verbose", 't'),
    ("arg-file", 'a')], mixes := false } 1 fun request session =>
    let (bytes, session) := match request.value? 'a' with
      | some path => ((session.content path).toOption.getD "", session)
      | none => session.readAll
    let chars := bytes.toList
    let parts (sign : Char) : List String :=
      let parts := chars.splitOn sign
      (if parts.getLast? = some [] then parts.dropLast else parts).map String.ofList
    let words? : Option (List String) :=
      if request.has '0' then some (parts '\x00')
      else if request.has 'd' then
        some (parts (match ((request.value? 'd').getD "").toList with
          | ['\\', 'n'] => '\n'
          | ['\\', 't'] => '\t'
          | ['\\', '0'] => '\x00'
          | c :: _ => c
          | [] => '\n'))
      else if request.has 'I' then
        some ((((parts '\n').map fun line => String.ofList (line.toList.dropWhile fun c => c = ' ' || c = '\t')).filter
          (· ≠ "")))
      else inputWords (chars.length + 1) chars none
    let command := if request.operands.isEmpty then ["echo"] else request.operands
    let number (letter : Char) : Option Nat := (request.value? letter).bind Signal.decimal?
    match words? with
    | none =>
      session.refuse 1 ("unmatched " ++ (if chars.contains '\'' then "single" else "double") ++
        " quote; by default quotes are special to xargs unless you use the -0 option")
    | some words =>
      let commands : List (List String) :=
        match request.value? 'I' with
        | some mark => words.map fun word => command.map fun text => String.intercalate word (text.splitOn mark)
        | none =>
          if words.isEmpty then if request.has 'r' then [] else [command]
          else
            match number 'n', number 'L' with
            | some size, _ => (grouped size (words.length + 1) words).map (command ++ ·)
            | none, some size =>
              (grouped size (chars.length + 1) ((parts '\n').filter (· ≠ ""))).map fun lines =>
                command ++ (inputWords (chars.length + 1) ("\n".intercalate lines).toList none).getD []
            | none, none => [command ++ words]
      let place := session.channels.size
      let start := (session.addChannel .nothing).connect 0 (some place)
      let ended := commands.foldl (fun (session : Session) (command : List String) =>
        if !session.isRunning || session.status = 124 || session.status = 125 || session.status = 126 || session.status = 127
        then session
        else
          match command with
          | [] => session
          | name :: arguments =>
            let session := if request.has 't' then session.complain (" ".intercalate command) else session
            match deeper.program name session with
            | .error .notFound => session.refuse 127 (name ++ ": " ++ FileFault.notFound.reason)
            | .error .permissionDenied => session.refuse 126 (name ++ ": " ++ FileFault.permissionDenied.reason)
            | .ok run =>
              let ended := run arguments session
              let after := session.afterApart ended
              match ended.flow with
              | .killed signal => after.refuse 125 (name ++ ": terminated by signal " ++ toString signal)
              | _ =>
                if after.status = 0 then after.finish session.status
                else if after.status = 255 then
                  after.refuse 124 (name ++ ": exited with status 255; aborting")
                else after.finish 123) (start.finish 0)
      ended.restore session [0]

/-! ### Shells -/

def shell (deeper : Deeper) : Utility := fun arguments session =>
  let session := { session with
    arguments := [], isSubshell := false, locals := [], functions := .empty, options := [], jobs := [], pending := []
    sent := [], substituted := none, status := 0, saved := none, line := 0, function := 0, command := none, loops := 0
    optionPlace := (1, 0), aliases := .empty
    traps := session.traps.filter fun (_, action) => action = ""
    bindings := .ofList (session.environment.map fun (name, value) => (name, { value := some value, isExported := true })) }
  let run (text : String) (session : Session) : Session :=
    let ended := (deeper.text {} text { session with line := 1 }).conclude deeper
    match ended.flow with
    | .killed _ => ended
    | .timedOut => ended
    | _ => ended.exit ended.status
  match Setting.read true [] arguments with
  | .error message => (session.report message).exit 2
  | .ok chosen =>
    let session := { session with options := chosen.options }
    let session := chosen.lists.foldl (fun session isShown => session.print (Setting.listing session.options isShown)) session
    if chosen.takesText then
      match chosen.operands with
      | [] => (session.report "-c requires an argument").exit 2
      | [text] => run text session
      | text :: name :: rest => run text { session with name := name, arguments := rest }
    else
      match chosen.operands, chosen.options.contains 's' with
      | path :: rest, false =>
        match session.content path with
        | .ok text => run text { session with name := path, arguments := rest }
        | .error fault =>
          let reason := match fault with
            | .notFound => "No such file"
            | .notDirectory => "No such file"
            | fault => fault.reason
          (session.report ("cannot open " ++ path ++ ": " ++ reason)).exit 2
      | operands, _ =>
        let (text, session) := session.readAll
        run text { session with arguments := operands, options := 's' :: session.options.filter (· ≠ 's') }

end Utility

end GuardedPlan.Shell
