import GuardedPlan.Regular.Parser
import GuardedPlan.Shell.Program.Character

/-!
# Editing streams

A script of editing commands is applied to each line in turn. Commands have addresses that say for which lines they count; they change the line at hand, keep text aside, read further lines and jump to labels.
-/

namespace GuardedPlan.Shell

namespace Stream

inductive Address where
  | line (number : Nat)
  | step (first width : Nat)
  | last
  | fits (expression : Option Regular) (manner : Regular.Manner)
  | count (lines : Nat)
  | multiple (of : Nat)

/-- A part of what takes the place of a match. -/
inductive Part where
  | text (chars : List Char)
  | group (index : Nat)
  | convert (letter : Char)

/-- How a substitution goes about it. -/
structure Substitution where
  expression : Option Regular
  manner : Regular.Manner := {}
  parts : List Part
  all : Bool := false
  number : Nat := 1
  prints : Bool := false
  file : Option String := none

/-- What a command does. -/
inductive Action where
  | opening (closing : Nat)
  | closing
  | substitute (how : Substitution)
  | exchange (pairs : List (Char × Char))
  | insert (letter : Char) (text : List Char)
  | jump (letter : Char) (label : String)
  | label (name : String)
  | file (letter : Char) (path : String)
  | quit (prints : Bool) (status : Nat)
  | plain (letter : Char)

structure Command where
  first : Option Address := none
  second : Option Address := none
  negated : Bool := false
  action : Action

/-- What is left of a script, with whether expressions in it are extended. -/
structure Reading where
  isExtended : Bool
  rest : List Char

/-- Reads up to a delimiter; a backslash keeps a delimiter in the text, and a break may be written as a letter. Brackets keep it too when the text is an expression. -/
def delimited (sign : Char) (isExpression : Bool) : Nat → Bool → List Char → Option (List Char × List Char)
  | 0, _, _ => none
  | _ + 1, _, [] => none
  | fuel + 1, true, c :: rest =>
    (delimited sign isExpression fuel (c ≠ ']') rest).map fun (text, rest) => (c :: text, rest)
  | fuel + 1, false, '\\' :: c :: rest =>
    (delimited sign isExpression fuel false rest).map fun (text, rest) =>
      if c = sign then
        (if isExpression && (['.', '*', '[', '^', '$', '|', '+', '?', '(', ')'].contains c) then ['\\', c] ++ text
          else c :: text, rest)
      else if c = 'n' && isExpression then ('\n' :: text, rest)
      else ('\\' :: c :: text, rest)
  | fuel + 1, false, c :: rest =>
    if c = sign then some ([], rest)
    else
      let opens := isExpression && c = '['
      match opens, rest with
      | true, '^' :: ']' :: more =>
        (delimited sign isExpression fuel true more).map fun (text, rest) => ('[' :: '^' :: ']' :: text, rest)
      | true, ']' :: more => (delimited sign isExpression fuel true more).map fun (text, rest) => ('[' :: ']' :: text, rest)
      | opens, rest => (delimited sign isExpression fuel opens rest).map fun (text, rest) => (c :: text, rest)

/-- Skips white space and semicolons between commands. -/
def skipBetween (input : List Char) : List Char :=
  input.dropWhile fun c => c = ' ' || c = '\t' || c = '\n' || c = ';'

def skipBlanks (input : List Char) : List Char :=
  input.dropWhile fun c => c = ' ' || c = '\t'

def number? (input : List Char) : Option (Nat × List Char) :=
  let digits := input.takeWhile Char.isDigit
  if digits.isEmpty then none else some (Regular.number digits, input.drop digits.length)

/-- The expression of a text; an empty text stands for the last one that was used. -/
def expression (isExtended : Bool) (text : List Char) : Except String (Option Regular) :=
  if text.isEmpty then .ok none
  else
    match Regular.read isExtended text with
    | .ok found => .ok (some found)
    | .error fault => .error fault.message

def address (reading : Reading) : Except String (Option Address × List Char) := do
  match reading.rest with
  | '$' :: rest => return (some .last, rest)
  | '/' :: rest => fitting '/' rest
  | '\\' :: sign :: rest => fitting sign rest
  | input =>
    match number? input with
    | some (first, '~' :: rest) =>
      match number? rest with
      | some (step, rest) => return (some (.step first step), rest)
      | none => return (some (.line first), '~' :: rest)
    | some (number, rest) => return (some (.line number), rest)
    | none => return (none, input)
where
  /-- Reads an address that is an expression. -/
  fitting (sign : Char) (input : List Char) : Except String (Option Address × List Char) := do
    match delimited sign true (input.length + 1) false input with
    | none => .error "unterminated address regex"
    | some (text, rest) =>
      let found ← expression reading.isExtended text
      match rest with
      | 'I' :: rest => return (some (.fits found { ignoresCase := true }), rest)
      | rest => return (some (.fits found {}), rest)

def secondAddress (reading : Reading) : Except String (Option Address × List Char) := do
  match reading.rest with
  | '+' :: rest =>
    match number? rest with
    | some (lines, rest) => return (some (.count lines), rest)
    | none => .error "expected number"
  | '~' :: rest =>
    match number? rest with
    | some (of, rest) => return (some (.multiple of), rest)
    | none => .error "expected number"
  | _ => address reading

/-- The parts of what takes the place of a match. -/
def parts : List Char → List Part
  | [] => []
  | '&' :: rest => .group 0 :: parts rest
  | '\\' :: c :: rest =>
    if c.isDigit then .group (c.toNat - '0'.toNat) :: parts rest
    else if c = 'n' then add '\n' (parts rest)
    else if c = 't' then add '\t' (parts rest)
    else if "ULEul".toList.contains c then .convert c :: parts rest
    else add c (parts rest)
  | c :: rest => add c (parts rest)
where
  /-- Puts a character in front of parts. -/
  add (c : Char) : List Part → List Part
    | .text chars :: rest => .text (c :: chars) :: rest
    | rest => .text [c] :: rest

def flags (how : Substitution) : Nat → List Char → Except String (Substitution × List Char)
  | 0, input => .ok (how, input)
  | fuel + 1, input =>
    match input with
    | 'g' :: rest => flags { how with all := true } fuel rest
    | 'p' :: rest => flags { how with prints := true } fuel rest
    | 'i' :: rest => flags { how with manner := { ignoresCase := true } } fuel rest
    | 'I' :: rest => flags { how with manner := { ignoresCase := true } } fuel rest
    | 'm' :: rest => flags how fuel rest
    | 'w' :: rest =>
      let path := (skipBlanks rest).takeWhile (· ≠ '\n')
      .ok ({ how with file := some (String.ofList path) }, (skipBlanks rest).drop path.length)
    | input =>
      match number? input with
      | some (0, _) => .error "number option to \x60s' command may not be zero"
      | some (number, rest) => flags { how with number := number } fuel rest
      | none => .ok (how, input)

/-- The text of lines that are put in, up to a line that no backslash continues, and the rest. -/
def givenText : List Char → List Char × List Char
  | [] => ([], [])
  | '\\' :: c :: rest =>
    let (text, rest) := givenText rest
    (c :: text, rest)
  | '\n' :: rest => ([], rest)
  | c :: rest =>
    let (text, rest) := givenText rest
    (c :: text, rest)

def ended (input : List Char) : Except String (List Char) :=
  match skipBlanks input with
  | [] => .ok []
  | ';' :: rest => .ok rest
  | '\n' :: rest => .ok rest
  | '\x7d' :: rest => .ok ('\x7d' :: rest)
  | '#' :: rest => .ok ('#' :: rest)
  | _ => .error "extra characters after command"

def action (isExtended : Bool) (letter : Char) (rest : List Char) : Except String (Action × List Char) := do
  let word (rest : List Char) : List Char × List Char :=
    let name := (skipBlanks rest).takeWhile fun c => c ≠ '\n' && c ≠ ';' && c ≠ '\x7d'
    ((name.reverse.dropWhile fun c => c = ' ').reverse, (skipBlanks rest).drop name.length)
  match letter with
  | '\x7b' => return (.opening 0, rest)
  | '\x7d' => do
    let rest ← ended rest
    return (.closing, rest)
  | 's' =>
    match rest with
    | [] => .error "unterminated \x60s' command"
    | sign :: rest =>
      match delimited sign true (rest.length + 1) false rest with
      | none => .error "unterminated \x60s' command"
      | some (pattern, rest) =>
        match delimited sign false (rest.length + 1) false rest with
        | none => .error "unterminated \x60s' command"
        | some (replacement, rest) => do
          let found ← expression isExtended pattern
          let (how, rest) ← flags { expression := found, parts := parts replacement } (rest.length + 1) rest
          match ended rest with
          | .ok rest => return (.substitute how, rest)
          | .error _ => .error "unknown option to \x60s'"
  | 'y' =>
    match rest with
    | [] => .error "unterminated \x60y' command"
    | sign :: rest =>
      match delimited sign false (rest.length + 1) false rest with
      | none => .error "unterminated \x60y' command"
      | some (first, rest) =>
        match delimited sign false (rest.length + 1) false rest with
        | none => .error "unterminated \x60y' command"
        | some (second, rest) => do
          let rest ← ended rest
          let a := unescaped first
          let b := unescaped second
          if a.length = b.length then return (.exchange (a.zip b), rest)
          else .error "strings for \x60y' command are different lengths"
  | ':' =>
    let name := (skipBlanks rest).takeWhile fun c => c ≠ '\n' && c ≠ ';' && c ≠ ' '
    if name.isEmpty then .error "\":\" lacks a label"
    else return (.label (String.ofList name), (skipBlanks rest).drop name.length)
  | letter =>
    if letter = 'a' || letter = 'i' || letter = 'c' then
      let given := match skipBlanks rest with
        | '\\' :: '\n' :: more => more
        | '\\' :: more =>
          match skipBlanks more with
          | '\n' :: more => more
          | _ => more
        | more => more
      if given.isEmpty then .error "expected \\ after \x60a', \x60c' or \x60i'"
      else
        let (text, rest) := givenText given
        return (.insert letter text, rest)
    else if letter = 'b' || letter = 't' || letter = 'T' then
      let (name, rest) := word rest
      let rest ← ended rest
      return (.jump letter (String.ofList name), rest)
    else if letter = 'r' || letter = 'w' then
      let path := (skipBlanks rest).takeWhile (· ≠ '\n')
      if path.isEmpty then .error "missing filename in r/R/w/W commands"
      else return (.file letter (String.ofList path), (skipBlanks rest).drop path.length)
    else if letter = 'q' || letter = 'Q' then
      let (status, rest) := (number? (skipBlanks rest)).getD (0, rest)
      let rest ← ended rest
      return (.quit (letter = 'q') status, rest)
    else if "=dDgGhHlnNpPxz".toList.contains letter then
      let rest ← ended rest
      return (.plain letter, rest)
    else .error ("unknown command: \x60" ++ String.ofList [letter] ++ "'")
where
  /-- A text with its escapes resolved. -/
  unescaped : List Char → List Char
    | '\\' :: 'n' :: rest => '\n' :: unescaped rest
    | '\\' :: '\\' :: rest => '\\' :: unescaped rest
    | c :: rest => c :: unescaped rest
    | [] => []

def commands (isExtended : Bool) : Nat → List Char → Except String (List Command)
  | 0, _ => .ok []
  | fuel + 1, input => do
    match skipBetween input with
    | [] => return []
    | '#' :: rest => commands isExtended fuel (rest.dropWhile (· ≠ '\n'))
    | input =>
      let (first, rest) ← address ⟨isExtended, input⟩
      let (second, rest) ←
        match first, skipBlanks rest with
        | some _, ',' :: rest => do
          let (second, rest) ← secondAddress ⟨isExtended, skipBlanks rest⟩
          if second.isNone then .error "unexpected \x60,'" else pure (second, rest)
        | _, rest => pure (none, rest)
      let rest := skipBlanks rest
      let negated := rest.head? = some '!'
      let rest := skipBlanks (rest.dropWhile fun c => c = '!' || c = ' ')
      match rest with
      | [] => .error "missing command"
      | letter :: rest =>
        let (found, rest) ← action isExtended letter rest
        let more ← commands isExtended fuel rest
        return { first := first, second := second, negated := negated, action := found } :: more

/-- Tells every opening brace where its closing one is. -/
def link (all : List Command) : Except String (Array Command) :=
  let walked := all.zipIdx.foldl (fun (state : Except String (List Nat × List (Nat × Nat))) (command, index) => do
    let (isOpen, pairs) ← state
    match command.action, isOpen with
    | .opening _, isOpen => return (index :: isOpen, pairs)
    | .closing, start :: isOpen => return (isOpen, (start, index) :: pairs)
    | .closing, [] => .error "unexpected \x60\x7d'"
    | _, isOpen => return (isOpen, pairs)) (.ok ([], []))
  match walked with
  | .error message => .error message
  | .ok (_ :: _, _) => .error "unmatched \x60\x7b'"
  | .ok ([], pairs) =>
    .ok ((all.zipIdx.map fun (command, index) =>
      match command.action with
      | .opening _ => { command with action := .opening ((pairs.lookup index).getD 0) }
      | _ => command).toArray)

/-! ### Running -/

/-- The work on a stream: the line at hand, what is kept aside, the lines to come, and what was printed in reverse. Ranges that are open carry the line where they end, if that is known. -/
structure Work where
  pattern : List Char := []
  hold : List Char := []
  number : Nat := 0
  coming : List (List Char)
  isClosed : Bool := true
  printed : List (List Char) := []
  queued : List (List Char) := []
  ranges : List (Nat × Option Nat) := []
  last : Option Regular := none
  replaced : Bool := false
  files : List (String × List Char) := []
  quits : Option Nat := none

def Work.isLast (work : Work) : Bool :=
  work.coming.isEmpty

def Work.print (work : Work) (text : List Char) : Work :=
  { work with printed := (text ++ (if work.isLast && !work.isClosed then [] else ['\n'])) :: work.printed }

/-- Whether an address is that of the line at hand, and the work with the expression that it used. -/
def Work.fits (work : Work) : Address → Bool × Work
  | .line number => (work.number = number, work)
  | .step first width =>
    (if width = 0 then work.number = first else first ≤ work.number && (work.number - first) % width = 0, work)
  | .last => (work.isLast, work)
  | .fits found manner =>
    let wanted := found.orElse fun _ => work.last
    (wanted.any fun expression => Regular.occursIn manner expression work.pattern, { work with last := wanted })
  | .count _ => (false, work)
  | .multiple of => (of = 0 || work.number % of = 0, work)

def Work.selects (work : Work) (index : Nat) (command : Command) : Bool × Work :=
  match command.first, command.second with
  | none, _ => (true, work)
  | some first, none => work.fits first
  | some first, some second =>
    let closed : List (Nat × Option Nat) := work.ranges.filter fun range => range.1 ≠ index
    let opened (finish : Option Nat) : Work := { work with ranges := (index, finish) :: closed }
    match work.ranges.lookup index with
    | some (some finish) =>
      if work.number < finish then (true, work)
      else if work.number = finish then (true, { work with ranges := closed })
      else
        let (fits, work) := { work with ranges := closed }.fits first
        (fits, work)
    | some none =>
      let (ends, work) := work.fits second
      (true, if ends then { work with ranges := closed } else work)
    | none =>
      let isZero : Bool := match first with
        | .line 0 => work.number == 1
        | _ => false
      if isZero then
        let (ends, work) := (opened none).fits second
        (true, if ends then { work with ranges := closed } else work)
      else
        let (fits, work) := work.fits first
        if !fits then (false, work)
        else
          let opened (finish : Option Nat) : Work := { work with ranges := (index, finish) :: closed }
          match second with
          | .line finish => (true, if finish ≤ work.number then work else opened (some finish))
          | .count lines => (true, if lines = 0 then work else opened (some (work.number + lines)))
          | .multiple of =>
            (true, if of = 0 || work.number % of = 0 then work else opened (some ((work.number / of + 1) * of)))
          | _ => (true, opened none)

def replacement (line : List Char) (found : Regular.Found) (parts : List Part) : List Char :=
  let add (state : List Char × Option Char × Option Char) (chars : List Char) : List Char × Option Char × Option Char :=
    let (done, mode, once) := state
    let shaped := match mode with
      | some 'U' => chars.map Char.toUpper
      | some 'L' => chars.map Char.toLower
      | _ => chars
    match once, shaped with
    | some 'u', c :: rest => (done ++ c.toUpper :: rest, mode, none)
    | some 'l', c :: rest => (done ++ c.toLower :: rest, mode, none)
    | once, shaped => (done ++ shaped, mode, once)
  (parts.foldl (fun state part =>
    match part with
    | .text chars => add state chars
    | .group index => add state (found.groupText line index)
    | .convert letter =>
      if letter = 'u' || letter = 'l' then (state.1, state.2.1, some letter)
      else (state.1, if letter = 'E' then none else some letter, none)) (([] : List Char), (none : Option Char), (none : Option Char))).1

def Work.substitute (work : Work) (how : Substitution) : Work :=
  match how.expression.orElse fun _ => work.last with
  | none => work
  | some wanted =>
    let line := work.pattern
    let found := Regular.all how.manner wanted line
    let chosen := (found.drop (how.number - 1)).take (if how.all then found.length else 1)
    if chosen.isEmpty then { work with last := some wanted }
    else
      let (done, position) := chosen.foldl (fun (done, position) one =>
        (done ++ (line.drop position).take (one.first - position) ++ replacement line one how.parts, one.last))
        (([] : List Char), 0)
      let work := { work with pattern := done ++ line.drop position, last := some wanted, replaced := true }
      let work := if how.prints then work.print work.pattern else work
      match how.file with
      | some path => { work with files := work.files ++ [(path, work.pattern ++ ['\n'])] }
      | none => work

def Work.next? (work : Work) : Option Work :=
  match work.coming with
  | [] => none
  | line :: rest => some { work with pattern := line, coming := rest, number := work.number + 1 }

/-- Prints what was queued for the end of a line. -/
def Work.flush (work : Work) : Work :=
  { work with printed := work.queued ++ work.printed, queued := [] }

/-- How a run through the commands ends: the line is done and printed, is done without that, or is gone through again. -/
inductive Ending where
  | done
  | dropped
  | again

/-- The text of the line at hand in which every character can be seen. -/
def visible (text : List Char) : List Char :=
  text.flatMap fun c =>
    if c = '\\' then ['\\', '\\'] else if c = '\n' then ['\\', 'n'] else if c = '\t' then ['\\', 't'] else [c]

/-- Runs the commands from one on for the line at hand; `read` gives the content of a file. -/
def run (program : Array Command) (quiet : Bool) (read : String → List Char) : Nat → Nat → Work → Ending × Work
  | 0, _, work => (.done, work)
  | fuel + 1, index, work =>
    match program[index]? with
    | none => (.done, work)
    | some command =>
      let (selected, work) := work.selects index command
      let goOn (work : Work) : Ending × Work := run program quiet read fuel (index + 1) work
      let jump (label : String) (work : Work) : Ending × Work :=
        if label = "" then (.done, work)
        else
          match program.findIdx? fun other =>
            match other.action with
            | .label name => name = label
            | _ => false with
          | some place => run program quiet read fuel (place + 1) work
          | none => (.done, work)
      let shown (work : Work) : Work := if quiet then work else work.print work.pattern
      if selected = command.negated then
        match command.action with
        | .opening closing => run program quiet read fuel (closing + 1) work
        | _ => goOn work
      else
        match command.action with
        | .opening _ => goOn work
        | .closing => goOn work
        | .label _ => goOn work
        | .substitute how => goOn (work.substitute how)
        | .exchange pairs => goOn { work with pattern := work.pattern.map fun c => (pairs.lookup c).getD c }
        | .insert letter text =>
          if letter = 'a' then goOn { work with queued := (text ++ ['\n']) :: work.queued }
          else if letter = 'i' then goOn { work with printed := (text ++ ['\n']) :: work.printed }
          else
            let isInside := command.second.isSome && !command.negated && (work.ranges.lookup index).isSome
            (.dropped, if isInside then work else { work with printed := (text ++ ['\n']) :: work.printed })
        | .jump letter label =>
          if letter = 'b' then jump label work
          else if (letter = 't') = work.replaced then jump label { work with replaced := false }
          else goOn { work with replaced := false }
        | .file letter path =>
          if letter = 'r' then goOn { work with queued := read path :: work.queued }
          else goOn { work with files := work.files ++ [(path, work.pattern ++ ['\n'])] }
        | .quit prints status =>
          let work := { work with quits := some status }
          (.dropped, if prints then shown work else work)
        | .plain letter =>
          match letter with
          | '=' => goOn { work with printed := ((toString work.number).toList ++ ['\n']) :: work.printed }
          | 'd' => (.dropped, work)
          | 'D' =>
            if work.pattern.contains '\n' then
              (.again, { work with pattern := (work.pattern.dropWhile (· ≠ '\n')).drop 1 })
            else (.dropped, work)
          | 'g' => goOn { work with pattern := work.hold }
          | 'G' => goOn { work with pattern := work.pattern ++ ['\n'] ++ work.hold }
          | 'h' => goOn { work with hold := work.pattern }
          | 'H' => goOn { work with hold := work.hold ++ ['\n'] ++ work.pattern }
          | 'x' => goOn { work with pattern := work.hold, hold := work.pattern }
          | 'l' => goOn { work with printed := (visible work.pattern ++ ['$', '\n']) :: work.printed }
          | 'n' =>
            if work.isLast then (.dropped, { shown work with quits := some 0 })
            else
              let work := (shown work).flush
              goOn (work.next?.getD work)
          | 'N' =>
            let before := work.pattern
            match work.flush.next? with
            | some next => goOn { next with pattern := before ++ ['\n'] ++ next.pattern }
            | none => (.dropped, { shown work with quits := some 0 })
          | 'p' => goOn (work.print work.pattern)
          | 'P' => goOn { work with printed := (work.pattern.takeWhile (· ≠ '\n') ++ ['\n']) :: work.printed }
          | 'z' => goOn { work with pattern := [] }
          | _ => goOn work

/-- How many commands are run for one line at most. -/
def maxSteps : Nat := 100000

def cycles (program : Array Command) (quiet : Bool) (read : String → List Char) : Nat → Bool → Work → Work
  | 0, _, work => work
  | fuel + 1, isAgain, work =>
    match if isAgain then some work else work.next? with
    | none => work
    | some work =>
      let (ending, work) := run program quiet read maxSteps 0 { work with replaced := false }
      let work := match ending with
        | .done => if quiet then work else work.print work.pattern
        | _ => work
      let work := work.flush
      if work.quits.isSome then work
      else
        match ending with
        | .again => cycles program quiet read fuel true work
        | _ => cycles program quiet read fuel false work

/-- The work on a text from its first line on. -/
def edit (program : Array Command) (quiet : Bool) (read : String → List Char) (text : String) (before : Work) : Work :=
  let lines := Lines.ofText text
  cycles program quiet read (2 * lines.length + text.length + 2) false
    { before with coming := lines, isClosed := Lines.isClosed text }

def Work.output (work : Work) : String :=
  String.ofList work.printed.reverse.flatten

end Stream

namespace Utility

/-- Puts an option for editing in place in a form in which it takes a value. -/
def splitInPlace (arguments : List String) : List String :=
  arguments.flatMap fun argument =>
    match argument.toList with
    | '-' :: 'i' :: rest => ["-i", String.ofList rest]
    | '-' :: 'n' :: 'i' :: rest => ["-n", "-i", String.ofList rest]
    | '-' :: 'E' :: 'i' :: rest => ["-E", "-i", String.ofList rest]
    | '-' :: 'r' :: 'i' :: rest => ["-E", "-i", String.ofList rest]
    | _ => if argument = "--in-place" then ["-i", ""] else [argument]

def sed : Utility := fun arguments =>
  withOptions { plain := "nErsuz", valued := "efi", named := [("quiet", 'n'), ("silent", 'n'), ("expression", 'e'),
    ("file", 'f'), ("regexp-extended", 'E'), ("in-place", 'i'), ("separate", 's')] } 1 (fun request session =>
    let given := request.options.filter fun (letter, _) => letter = 'e' || letter = 'f'
    let (scripts, operands) := match given, request.operands with
      | [], first :: rest => ([first], rest)
      | given, operands => (given.map fun (letter, value) =>
          if letter = 'e' then value else (session.content value).toOption.getD "", operands)
    if scripts.isEmpty then
      (session.complain "Usage: sed [OPTION]... \x7bscript-only-if-no-other-script\x7d [input-file]...").finish 1
    else
      let text := "\n".intercalate scripts
      let isExtended := request.has 'E' || request.has 'r'
      let quiet := request.has 'n' || text.startsWith "#n\n"
      match Stream.commands isExtended (text.length + 1) text.toList >>= Stream.link with
      | .error message => session.refuse 1 ("-e expression #1, char " ++ toString text.length ++ ": " ++ message)
      | .ok program =>
        let read (path : String) : List Char := ((session.content path).toOption.getD "").toList
        let missing (session : Session) (path : String) (fault : FileFault) : Session :=
          match fault with
          | .isDirectory => session.refuse 2 ("couldn't edit " ++ path ++ ": not a regular file")
          | fault => session.refuse 2 ("can't read " ++ path ++ ": " ++ fault.reason)
        let save (session : Session) (files : List (String × List Char)) : Session :=
          let names := (files.map Prod.fst).eraseDups
          names.foldl (fun session path =>
            let text := String.ofList ((files.filter fun found => found.1 = path).flatMap Prod.snd)
            if path = "/dev/stdout" then session.put text
            else
              match session.tree.write (Bytes.toText path) (Bytes.toContent text) with
              | .ok tree => { session with tree := tree }
              | .error _ => session) session
        if request.has 'i' || request.has 's' then
          operands.foldl (fun session path =>
            match Session.operand session path with
            | (.error fault, session) => missing session path fault
            | (.ok text, session) =>
              let work := Stream.edit program quiet read text { coming := [] }
              let session := save session work.files
              let session := work.quits.elim session fun status => if status = 0 then session else session.finish status
              match request.value? 'i' with
              | none => session.put work.output
              | some ending =>
                let kept := if ending = "" then session.tree
                  else (session.tree.write (Bytes.toText (path ++ ending)) (Bytes.toContent text)).toOption.getD session.tree
                match kept.write (Bytes.toText path) (Bytes.toContent work.output) with
                | .ok tree => { session with tree := tree }
                | .error fault => missing session path fault) (session.finish 0)
        else
          let paths := if operands.isEmpty then ["-"] else operands
          let (texts, session) := paths.foldl (fun (texts, session) path =>
            match Session.operand session path with
            | (.ok text, session) => (texts ++ [text], session)
            | (.error .isDirectory, session) => (texts, session.refuse 2 ("couldn't edit " ++ path ++ ": not a regular file"))
            | (.error fault, session) => (texts, missing session path fault)) (([] : List String), session.finish 0)
          let joined := texts.zipIdx.map fun (text, index) =>
            if index + 1 < texts.length && !Lines.isClosed text then text ++ "\n" else text
          let work := Stream.edit program quiet read (String.join joined) { coming := [] }
          let session := (save session work.files).put work.output
          match work.quits with
          | some status => if status = 0 then session else session.finish status
          | none => session) (splitInPlace arguments)

end Utility

end GuardedPlan.Shell
