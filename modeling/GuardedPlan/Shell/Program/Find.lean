import GuardedPlan.Shell.Program.Listing

/-!
# Finding files

Directories are walked from some starting points on, and an expression is worked out for all that is found. Parts of an expression test what was found, others do something with it.
-/

namespace GuardedPlan.Shell

namespace Find

inductive Comparison where
  | equal
  | more
  | less

/-- An expression over what was found. -/
inductive Condition where
  | constant (value : Bool)
  | name (pattern : BytePattern) (isPath ignoresCase : Bool)
  | kind (letter : Char)
  | empty
  | size (comparison : Comparison) (count unit : Nat)
  | executable
  | print (ending : String)
  | delete
  | run (command : List String) (isBatch : Bool)
  | prune
  | quit
  | negated (body : Condition)
  | both (first second : Condition)
  | either (first second : Condition)
  | list (first second : Condition)

namespace Condition

/-- Whether an expression does anything, so that it does not print by itself. -/
def acts : Condition → Bool
  | print _ => true
  | delete => true
  | run _ _ => true
  | quit => false
  | negated body => body.acts
  | both first second => first.acts || second.acts
  | either first second => first.acts || second.acts
  | list first second => first.acts || second.acts
  | _ => false

def deletes : Condition → Bool
  | delete => true
  | negated body => body.deletes
  | both first second => first.deletes || second.deletes
  | either first second => first.deletes || second.deletes
  | list first second => first.deletes || second.deletes
  | _ => false

end Condition

structure Walk where
  least : Nat := 0
  most : Option Nat := none
  depthFirst : Bool := false

/-- A condition, how directories are walked, and the arguments behind them. -/
abbrev Reading := Except String (Condition × Walk × List String)

def patternOf (text : String) (ignoresCase : Bool) : BytePattern :=
  let chars := if ignoresCase then text.toList.map Char.toLower else text.toList
  Wildcard.pattern {} (Wildcard.unescaped (Glyph.bytes chars))

/-- A number that may say that more or less than it is wanted. -/
def counted? (text : String) : Option (Comparison × String) :=
  match text.toList with
  | '+' :: rest => some (.more, String.ofList rest)
  | '-' :: rest => some (.less, String.ofList rest)
  | [] => none
  | rest => some (.equal, String.ofList rest)

/-- The arguments of a command up to the one that ends it. -/
def commandOf : List String → Option (List String × Bool × List String)
  | [] => none
  | ";" :: rest => some ([], false, rest)
  | "\x7b\x7d" :: "+" :: rest => some (["\x7b\x7d"], true, rest)
  | first :: rest => (commandOf rest).map fun (command, isBatch, rest) => (first :: command, isBatch, rest)

mutual

def alternatives : Nat → Walk → List String → Reading
  | 0, walk, arguments => .ok (.constant true, walk, arguments)
  | fuel + 1, walk, arguments => do
    let (first, walk, rest) ← conjunction fuel walk arguments
    match rest with
    | "-o" :: rest => do
      let (second, walk, rest) ← alternatives fuel walk rest
      return (.either first second, walk, rest)
    | "-or" :: rest => do
      let (second, walk, rest) ← alternatives fuel walk rest
      return (.either first second, walk, rest)
    | "," :: rest => do
      let (second, walk, rest) ← alternatives fuel walk rest
      return (.list first second, walk, rest)
    | rest => return (first, walk, rest)

def conjunction : Nat → Walk → List String → Reading
  | 0, walk, arguments => .ok (.constant true, walk, arguments)
  | fuel + 1, walk, arguments => do
    let (first, walk, rest) ← primary fuel walk arguments
    match rest with
    | [] => return (first, walk, [])
    | next :: more =>
      if ["-o", "-or", ",", ")"].contains next then return (first, walk, rest)
      else
        let (second, walk, rest) ← conjunction fuel walk (if next = "-a" || next = "-and" then more else rest)
        return (.both first second, walk, rest)

def primary : Nat → Walk → List String → Reading
  | 0, walk, arguments => .ok (.constant true, walk, arguments)
  | _ + 1, _, [] => .error "expected an expression"
  | fuel + 1, walk, argument :: rest => do
    let one (condition : Condition) : Reading := .ok (condition, walk, rest)
    let valued (read : String → Except String (Condition × Walk)) : Reading :=
      match rest with
      | [] => .error ("missing argument to \x60" ++ argument ++ "'")
      | value :: rest => (read value).map fun (condition, walk) => (condition, walk, rest)
    let named (isPath ignoresCase : Bool) : Reading :=
      valued fun value => .ok (.name (patternOf value ignoresCase) isPath ignoresCase, walk)
    match argument with
    | "(" => do
      let (body, walk, rest) ← alternatives fuel walk rest
      match rest with
      | ")" :: rest => return (body, walk, rest)
      | _ => .error "invalid expression; I was expecting to find a ')' somewhere but did not see one."
    | "!" => do
      let (body, walk, rest) ← primary fuel walk rest
      return (.negated body, walk, rest)
    | "-not" => do
      let (body, walk, rest) ← primary fuel walk rest
      return (.negated body, walk, rest)
    | "-name" => named false false
    | "-iname" => named false true
    | "-path" => named true false
    | "-wholename" => named true false
    | "-ipath" => named true true
    | "-type" =>
      valued fun value =>
        match value.toList with
        | [letter] => .ok (.kind letter, walk)
        | _ => .error ("Unknown argument to -type: " ++ value)
    | "-empty" => one .empty
    | "-executable" => one .executable
    | "-readable" => one (.constant true)
    | "-writable" => one (.constant true)
    | "-true" => one (.constant true)
    | "-false" => one (.constant false)
    | "-print" => one (.print "\n")
    | "-print0" => one (.print "\x00")
    | "-prune" => one .prune
    | "-quit" => one .quit
    | "-delete" => .ok (.delete, { walk with depthFirst := true }, rest)
    | "-depth" => .ok (.constant true, { walk with depthFirst := true }, rest)
    | "-size" =>
      valued fun value =>
        match counted? value with
        | none => .error ("Invalid argument \x60" ++ value ++ "' to -size")
        | some (comparison, text) =>
          let digits := text.toList.takeWhile Char.isDigit
          let unit? : Option Nat := match String.ofList (text.toList.drop digits.length) with
            | "" => some 512
            | "b" => some 512
            | "c" => some 1
            | "w" => some 2
            | "k" => some 1024
            | "M" => some (1024 * 1024)
            | "G" => some (1024 * 1024 * 1024)
            | _ => none
          match Signal.decimal? (String.ofList digits), unit? with
          | some count, some unit => .ok (.size comparison count unit, walk)
          | _, _ => .error ("Invalid argument \x60" ++ value ++ "' to -size")
    | "-maxdepth" =>
      valued fun value =>
        match Signal.decimal? value with
        | some depth => .ok (.constant true, { walk with most := some depth })
        | none => .error ("Expected a positive decimal integer argument to -maxdepth, but got '" ++ value ++ "'")
    | "-mindepth" =>
      valued fun value =>
        match Signal.decimal? value with
        | some depth => .ok (.constant true, { walk with least := depth })
        | none => .error ("Expected a positive decimal integer argument to -mindepth, but got '" ++ value ++ "'")
    | "-exec" =>
      match commandOf rest with
      | some (command, isBatch, rest) => return (.run command isBatch, walk, rest)
      | none => .error "missing argument to \x60-exec'"
    | argument =>
      if argument.startsWith "-" then .error ("unknown predicate \x60" ++ argument ++ "'")
      else .error ("paths must precede expression: \x60" ++ argument ++ "'")

end

/-- The work of a search: the session, whether a directory is left out or all of the search ends, and the paths that are collected for commands. -/
structure Work where
  session : Session
  prunes : Bool := false
  quits : Bool := false
  batches : List (List String × List String) := []

/-- Runs a command in a process of its own; a command that cannot be run counts as failed. -/
def start (deeper : Deeper) (command : List String) (session : Session) : Bool × Session :=
  match command with
  | [] => (false, session)
  | name :: arguments =>
    let before := session.status
    match deeper.program name session with
    | .error fault =>
      let reason := match fault with
        | .notFound => FileFault.notFound.reason
        | .permissionDenied => FileFault.permissionDenied.reason
      (false, session.warn (Session.quoted name ++ ": " ++ reason))
    | .ok run =>
      let after := session.afterApart (run arguments session)
      (after.status = 0, after.finish before)

/-- A text in which every pair of braces stands for a path. -/
def withPath (path text : String) : String :=
  path.intercalate (text.splitOn "\x7b\x7d")

def evaluate (deeper : Deeper) (path name : String) (node : FileNode) : Condition → Work → Bool × Work
  | .constant value, work => (value, work)
  | .name pattern isPath ignoresCase, work =>
    let text := if isPath then path else name
    let chars := if ignoresCase then text.toList.map Char.toLower else text.toList
    (pattern.accepts (Glyph.bytes chars), work)
  | .kind letter, work =>
    (match node with
      | .directory _ => letter = 'd'
      | .file .. => letter = 'f', work)
  | .empty, work =>
    (match node with
      | .directory entries => entries.isEmpty
      | .file content _ => content.size = 0, work)
  | .size comparison count unit, work =>
    let size := match node with
      | .directory _ => 4096
      | .file content _ => content.size
    let units := (size + unit - 1) / unit
    (match comparison with
      | .equal => units = count
      | .more => count < units
      | .less => units < count, work)
  | .executable, work =>
    (match node with
      | .directory _ => true
      | .file _ isExecutable => isExecutable, work)
  | .print ending, work => (true, { work with session := work.session.put (path ++ ending) })
  | .delete, work =>
    match Utility.removeEmpty path work.session, node with
    | .ok session, _ => (true, { work with session := session })
    | .error _, .file .. =>
      match work.session.tree.locate (Bytes.toText path) with
      | .ok location =>
        (true, { work with session := { work.session with tree := work.session.tree.remove location } })
      | .error _ => (false, work)
    | .error _, .directory _ =>
      (false, { work with
        session := work.session.refuse 1 ("cannot delete " ++ Session.quoted path ++ ": " ++
          FileFault.directoryNotEmpty.reason) })
  | .run command true, work =>
    let paths := (work.batches.lookup command).getD []
    (true, { work with batches := (command, paths ++ [path]) :: work.batches.filter fun batch => batch.1 ≠ command })
  | .run command false, work =>
    let (succeeded, session) := start deeper (command.map (withPath path)) work.session
    (succeeded, { work with session := session })
  | .prune, work => (true, { work with prunes := true })
  | .quit, work => (true, { work with quits := true })
  | .negated body, work =>
    let (value, work) := evaluate deeper path name node body work
    (!value, work)
  | .both first second, work =>
    let (value, work) := evaluate deeper path name node first work
    if value && !work.quits then evaluate deeper path name node second work else (value, work)
  | .either first second, work =>
    let (value, work) := evaluate deeper path name node first work
    if value || work.quits then (value, work) else evaluate deeper path name node second work
  | .list first second, work =>
    let (_, work) := evaluate deeper path name node first work
    if work.quits then (true, work) else evaluate deeper path name node second work

/-- Walks what is at a path and below it, as deep as `fuel`. -/
def visit (deeper : Deeper) (condition : Condition) (walk : Walk) : Nat → Nat → String → Work → Work
  | 0, _, _, work => work
  | fuel + 1, depth, path, work =>
    match work.session.node? path with
    | none => work
    | some node =>
      let name := Utility.baseName path
      let judge (work : Work) : Work :=
        if walk.least ≤ depth && !work.quits then (evaluate deeper path name node condition work).2 else work
      let work := if walk.depthFirst then work else judge { work with prunes := false }
      let isOpen := match node with
        | .directory _ => walk.most.all (depth < ·) && !work.quits && (walk.depthFirst || !work.prunes)
        | .file .. => false
      let work :=
        if isOpen then
          (work.session.namesIn path).foldl (fun work name =>
            if work.quits then work
            else visit deeper condition walk fuel (depth + 1) (Utility.inside path name) work) work
        else work
      if walk.depthFirst then judge { work with prunes := false } else work

end Find

namespace Utility

def find (deeper : Deeper) : Utility := fun arguments session =>
  let arguments := arguments.dropWhile fun text => ["-L", "-H", "-P"].contains text
  let isStart (text : String) : Bool := !(text.startsWith "-" || ["(", ")", "!", ","].contains text)
  let starts := arguments.takeWhile isStart
  let expression := arguments.drop starts.length
  let read : Find.Reading :=
    if expression.isEmpty then .ok (.constant true, {}, []) else Find.alternatives (4 * expression.length + 8) {} expression
  match read with
  | .error message => session.refuse 1 message
  | .ok (_, _, other :: _) => session.refuse 1 ("paths must precede expression: \x60" ++ other ++ "'")
  | .ok (condition, walk, []) =>
    let condition := if condition.acts then condition else .both condition (.print "\n")
    let starts := if starts.isEmpty then ["."] else starts
    let work := starts.foldl (fun (work : Find.Work) path =>
      if work.quits then work
      else
        match work.session.tree.node (Bytes.toText path) with
        | .ok _ => Find.visit deeper condition walk 128 0 path work
        | .error fault =>
          { work with session := work.session.refuse 1 (Session.quoted path ++ ": " ++ fault.reason) })
      { session := session.finish 0 }
    work.batches.reverse.foldl (fun session (command, paths) =>
      let arguments := command.flatMap fun text => if text = "\x7b\x7d" then paths else [text]
      let (succeeded, session) := Find.start deeper arguments session
      if succeeded then session else session.finish 1) work.session

end Utility

end GuardedPlan.Shell
