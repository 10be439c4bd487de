import GuardedPlan.Shell.Expansion
import GuardedPlan.Shell.Output
import GuardedPlan.Shell.Setting

/-!
# Commands for variables

Setting, marking, forgetting and reading variables, and the arguments of a shell. A command that is given something wrong fails, which a shell survives if the command is not a special one.
-/

namespace GuardedPlan.Shell

namespace Builtin

/-- Reads the options at the front of arguments by their letters, and what follows them; the error is what the shell says. -/
def options (letters : String) : List String → Except String (List Char × List String)
  | [] => .ok ([], [])
  | argument :: rest =>
    match argument.toList with
    | ['-', '-'] => .ok ([], rest)
    | '-' :: c :: more =>
      match (c :: more).find? fun letter => !letters.toList.contains letter with
      | some unknown => .error ("Illegal option -" ++ String.ofList [unknown])
      | none => (options letters rest).map fun (found, rest) => (c :: more ++ found, rest)
    | _ => .ok ([], argument :: rest)

def withOptions (letters : String) (run : List Char → List String → Session → Session) : Utility :=
  fun arguments session =>
    match options letters arguments with
    | .error message => session.abort message
    | .ok (found, rest) => run found rest session

/-- The number that a text is, as a shell takes one. -/
def number (text : String) : Except String Nat :=
  match Signal.decimal? text with
  | some n => if n < Nat.pow 2 31 then .ok n else .error ("Illegal number: " ++ text)
  | none => .error ("Illegal number: " ++ text)

def quoted (text : String) : String :=
  "'" ++ "'\"'\"'".intercalate (text.splitOn "'") ++ "'"

/-- Splits an argument into a name and the value behind an equals sign, if there is one. -/
def assignment (text : String) : String × Option String :=
  let name := text.toList.takeWhile (· ≠ '=')
  (String.ofList name,
    if name.length < text.length then some (String.ofList (text.toList.drop (name.length + 1))) else none)

/-- Does something with each argument in turn as long as the session goes on. -/
def forEach (arguments : List String) (change : String → Session → Session) (session : Session) : Session :=
  arguments.foldl (fun session argument => if session.isRunning then change argument session else session)
    (session.finish 0)

/-- Marks variables and gives them values; without arguments those that are marked are listed. -/
def marking (word : String) (isMarked : Variable → Bool) (mark : Variable → Variable) : Utility :=
  withOptions "p" fun letters arguments session =>
    if arguments.isEmpty || letters.contains 'p' then
      let rows := (session.bindings.entries.filter fun (_, found) => isMarked found).map fun (name, found) =>
        word ++ " " ++ name ++ (found.value.elim "" fun value => "=" ++ quoted value) ++ "\n"
      (session.print (String.join rows)).finish 0
    else
      forEach arguments (fun text session =>
        let (name, value?) := assignment text
        if !Word.isName name then session.abort (name ++ ": bad variable name")
        else
          let session := value?.elim session (session.assign name)
          if session.isRunning then session.setVariable name (mark (session.variableOf name)) else session) session

def markExported : Utility :=
  marking "export" Variable.isExported fun found => { found with isExported := true }

def markFixed : Utility :=
  marking "readonly" Variable.isFixed fun found => { found with isFixed := true }

def declareLocal : Utility := fun arguments session =>
  match session.locals with
  | [] => session.abort "not in a function"
  | _ :: _ =>
    forEach arguments (fun text session =>
      let (name, value?) := assignment text
      if text = "-" then session
      else if !Word.isName name then session.abort (name ++ ": bad variable name")
      else
        match session.locals with
        | [] => session
        | frame :: frames =>
          let frame := if frame.any fun (other, _) => other = name then frame
            else (name, session.bindings.get? name) :: frame
          let session := { session with locals := frame :: frames }
          match value? with
          | some value => session.assign name value
          | none => session) session

def unset : Utility :=
  withOptions "vf" fun letters arguments session =>
    forEach arguments (fun name session =>
      if letters.contains 'f' then { session with functions := session.functions.erase name }
      else if !Word.isName name then session.abort (name ++ ": bad variable name")
      else if (session.variableOf name).isFixed then session.abort (name ++ ": is read only")
      else { session with bindings := session.bindings.erase name }) session

def shift : Utility := fun arguments session =>
  match (arguments.head?.elim (.ok 1) number : Except String Nat) with
  | .error message => session.abort message
  | .ok count =>
    if session.arguments.length < count then session.abort "can't shift that many"
    else { session with arguments := session.arguments.drop count, optionPlace := (1, 0) }.finish 0

def set : Utility := fun arguments session =>
  if arguments.isEmpty then
    let rows := session.bindings.entries.filterMap fun (name, found) =>
      found.value.map fun value => name ++ "=" ++ quoted value ++ "\n"
    (session.print (String.join rows)).finish 0
  else
    match Setting.read false session.options arguments with
    | .error message => session.abort message
    | .ok chosen =>
      let session := { session with options := chosen.options }
      let session := chosen.lists.foldl (fun session isShown =>
        session.print (Setting.listing session.options isShown)) session
      (if chosen.replaces then { session with arguments := chosen.operands, optionPlace := (1, 0) } else session).finish 0

/-! ### Reading -/

/-- The glyphs of a line up to its break, which a backslash may join to the next one, what is left, and whether there was a break. -/
def lineGlyphs (isRaw : Bool) : List Char → List Glyph × List Char × Bool
  | [] => ([], [], false)
  | '\n' :: rest => ([], rest, true)
  | '\\' :: c :: rest =>
    if isRaw then
      let (glyphs, rest, ended) := lineGlyphs isRaw (c :: rest)
      (.char '\\' true true :: glyphs, rest, ended)
    else
      let (glyphs, rest, ended) := lineGlyphs isRaw rest
      (if c = '\n' then glyphs else .char c true false :: glyphs, rest, ended)
  | c :: rest =>
    let (glyphs, rest, ended) := lineGlyphs isRaw rest
    (if c = '\x00' then glyphs else .char c true true :: glyphs, rest, ended)

/-- Whether a glyph separates fields, and whether it is white space. -/
def separates (separators : List Char) : Glyph → Bool × Bool
  | .char c _ true => (separators.contains c, separators.contains c && (c = ' ' || c = '\t' || c = '\n'))
  | _ => (false, false)

/-- The first field of glyphs and what is behind the separator that ends it. -/
def firstField (separators : List Char) (glyphs : List Glyph) : List Glyph × List Glyph :=
  let isBlank (glyph : Glyph) : Bool := (separates separators glyph).2
  let field := glyphs.takeWhile fun glyph => !(separates separators glyph).1
  let after := (glyphs.drop field.length).dropWhile isBlank
  match after with
  | glyph :: rest => (field, if (separates separators glyph).1 then rest.dropWhile isBlank else after)
  | [] => (field, [])

/-- The values that glyphs give to some variables: a field each and the rest to the last. -/
def distribute (separators : List Char) : List String → List Glyph → List (String × String)
  | [], _ => []
  | name :: names, glyphs =>
    let isBlank (glyph : Glyph) : Bool := (separates separators glyph).2
    let glyphs := glyphs.dropWhile isBlank
    let (field, rest) := firstField separators glyphs
    match names with
    | [] =>
      let kept := if rest.isEmpty then field else (glyphs.reverse.dropWhile isBlank).reverse
      [(name, Glyph.text kept)]
    | names => (name, Glyph.text field) :: distribute separators names rest

/-- Reads a line of standard input into variables; the status is one when no line break was left. -/
def read : Utility := fun arguments session =>
  let rec chosen : Nat → List String → Bool → Option String → Except String (Bool × Option String × List String)
    | 0, arguments, isRaw, prompt => .ok (isRaw, prompt, arguments)
    | fuel + 1, arguments, isRaw, prompt =>
      match arguments with
      | "-r" :: rest => chosen fuel rest true prompt
      | "-p" :: text :: rest => chosen fuel rest isRaw (some text)
      | ["-p"] => .error "No arg for -p option"
      | "--" :: rest => .ok (isRaw, prompt, rest)
      | argument :: rest =>
        match argument.toList with
        | '-' :: c :: _ =>
          if c = 'r' || c = 'p' then .ok (isRaw, prompt, rest) else .error ("Illegal option -" ++ String.ofList [c])
        | _ => .ok (isRaw, prompt, argument :: rest)
      | [] => .ok (isRaw, prompt, [])
  match chosen (arguments.length + 1) arguments false none with
  | .error message => session.abort message
  | .ok (_, _, []) => session.abort "arg count"
  | .ok (isRaw, _, names) =>
    match session.rest? 0 with
    | none => (session.report "read error: Bad file descriptor").finish 1
    | some content =>
      let input := (Bytes.ofContent content).toList
      let (glyphs, rest, ended) := lineGlyphs isRaw input
      let session := session.advance 0 (input.length - rest.length)
      let values := distribute session.separators names glyphs
      let session := values.foldl (fun session (name, value) =>
        if !session.isRunning then session
        else if Word.isName name then session.assign name value
        else session.abort (name ++ ": bad variable name")) session
      if session.isRunning then session.finish (if ended then 0 else 1) else session

/-! ### Options -/

/-- What an option string says about a letter: whether the letter is known, and whether it takes a value. -/
def optionKind (letter : Char) : List Char → Option Bool
  | [] => none
  | c :: ':' :: rest => if c = letter then some true else optionKind letter rest
  | c :: rest => if c = letter then some false else optionKind letter rest

/-- Takes the next option from arguments and puts it into a variable. -/
def getopts : Utility := fun arguments session =>
  match arguments with
  | letters :: name :: given =>
    let words := if given.isEmpty then session.arguments else given
    let (saved, offset) := session.optionPlace
    let index := ((session.value? "OPTIND").bind Signal.decimal?).getD 1
    let (index, offset) := if index = saved then (index, offset) else (max index 1, 0)
    let isQuiet := letters.toList.head? = some ':'
    let known := if isQuiet then letters.toList.drop 1 else letters.toList
    let ended (session : Session) (letter : Char) (index offset status : Nat) : Session :=
      let session := session.assign "OPTIND" (toString index)
      let session := { session with optionPlace := (index, offset) }
      let session := if Word.isName name then session.assign name (String.ofList [letter])
        else session.abort (name ++ ": bad variable name")
      if session.isRunning then session.finish status else session
    let dropValue (session : Session) : Session := { session with bindings := session.bindings.erase "OPTARG" }
    let inside := ((words[index - 2]?).getD "").toList.drop offset
    let current? : Option (List Char × Nat × Nat) :=
      if 1 < index && 0 < offset && !inside.isEmpty then some (inside, index, offset)
      else
        match ((words[index - 1]?).getD "").toList with
        | '-' :: c :: rest => if c = '-' && rest.isEmpty then none else some (c :: rest, index + 1, 1)
        | _ => none
    match current? with
    | none =>
      let isDash := ((words[index - 1]?).getD "") = "--" && !(1 < index && 0 < offset && !inside.isEmpty)
      ended session '?' (if isDash then index + 1 else index) 0 1
    | some ([], index, _) => ended session '?' index 0 1
    | some (letter :: rest, index, offset) =>
      let next := if rest.isEmpty then 0 else offset + 1
      match optionKind letter known with
      | none =>
        if isQuiet then ended (session.assign "OPTARG" (String.ofList [letter])) '?' index next 0
        else ended (dropValue (session.complain ("Illegal option -" ++ String.ofList [letter]))) '?' index next 0
      | some false => ended (session.assign "OPTARG" "") letter index next 0
      | some true =>
        if !rest.isEmpty then ended (session.assign "OPTARG" (String.ofList rest)) letter index 0 0
        else
          match words[index - 1]? with
          | some value => ended (session.assign "OPTARG" value) letter (index + 1) 0 0
          | none =>
            if isQuiet then ended (session.assign "OPTARG" (String.ofList [letter])) ':' index 0 0
            else ended (dropValue (session.complain ("No arg for -" ++ String.ofList [letter] ++ " option"))) '?' index 0 0
  | _ => session.abort "Usage: getopts optstring var [arg...]"

/-! ### Aliases -/

def makeAlias : Utility := fun arguments session =>
  let row (name value : String) : String := name ++ "=" ++ quoted value ++ "\n"
  if arguments.isEmpty then
    (session.print (String.join (session.aliases.entries.map fun (name, value) => row name value))).finish 0
  else
    arguments.foldl (fun session text =>
      match assignment text with
      | (name, some value) => { session with aliases := session.aliases.insert name value }
      | (name, none) =>
        match session.aliases.get? name with
        | some value => session.print (row name value)
        | none => (session.complain ("alias: " ++ name ++ " not found")).finish 1) (session.finish 0)

def unalias : Utility :=
  withOptions "a" fun letters arguments session =>
    if letters.contains 'a' then { session with aliases := .empty }.finish 0
    else
      arguments.foldl (fun session name =>
        if (session.aliases.get? name).isSome then { session with aliases := session.aliases.erase name }
        else (session.complain ("unalias: " ++ name ++ " not found")).finish 1) (session.finish 0)

end Builtin

end GuardedPlan.Shell
