import GuardedPlan.Shell.Program.File

/-!
# Programs that work on lines

What is read from files or from standard input is printed, counted or cut to a part of its lines. A last line without a break counts as a line, and most programs give it the break that it lacks.
-/

namespace GuardedPlan.Shell

namespace Lines

def ofText (text : String) : List (List Char) :=
  let lines := text.toList.splitOn '\n'
  if lines.getLast? = some [] then lines.dropLast else lines

def toText (lines : List (List Char)) : String :=
  String.ofList (lines.flatMap fun line => line ++ ['\n'])

/-- Whether the last line of a text has a break. -/
def isClosed (text : String) : Bool :=
  text = "" || text.toList.getLast? = some '\n'

/-- The number of digits at the front, if there is one and nothing else. -/
def count? (text : String) : Option Nat :=
  Signal.decimal? text

/-- A count with a letter behind it that multiplies it. -/
def size? (text : String) : Option Nat :=
  let digits := text.toList.takeWhile Char.isDigit
  let unit? : Option Nat := match String.ofList (text.toList.drop digits.length) with
    | "" => some 1
    | "b" => some 512
    | "k" => some 1024
    | "K" => some 1024
    | "M" => some (1024 * 1024)
    | "kB" => some 1000
    | _ => none
  (count? (String.ofList digits)).bind fun count => unit?.map (count * ·)

end Lines

namespace Session

/-- The contents of some operands or of standard input, with the path that each came from; those that cannot be read are reported. -/
def readEach (session : Session) (paths : List String) (describe : String → String := id) :
    List (String × String) × Session :=
  let paths := if paths.isEmpty then ["-"] else paths
  let (found, session) := paths.foldl (fun (found, session) path =>
    match operand session path with
    | (.ok content, session) => ((path, content) :: found, session)
    | (.error fault, session) => (found, session.refuse 1 (describe path ++ ": " ++ fault.reason)))
    (([] : List (String × String)), session.finish 0)
  (found.reverse, session)

/-- How a path is described that could not be opened. -/
def opening (path : String) : String :=
  "cannot open '" ++ path ++ "' for reading"

end Session

namespace Utility

/-- Numbers in front of lines, or other marks that `cat` puts into them. -/
def shownLines (request : Request) (text : String) (first : Nat) : String × Nat :=
  let lines := text.toList.splitOn '\n'
  let closed := Lines.isClosed text
  let lines := if closed then lines.dropLast else lines
  let squeezed := if request.has 's' then
      (lines.foldl (fun (kept : List (List Char)) line =>
        if line.isEmpty && kept.head? = some [] then kept else line :: kept) []).reverse
    else lines
  let ending := if request.has 'E' || request.has 'A' || request.has 'e' then "$" else ""
  let tabs (line : List Char) : String :=
    if request.has 'T' || request.has 'A' || request.has 't' then
      String.join (line.map fun c => if c = '\t' then "^I" else String.ofList [c])
    else String.ofList line
  let (shown, next) := squeezed.foldl (fun (shown, number) line =>
    let counts := request.has 'b' && !line.isEmpty || request.has 'n' && !request.has 'b'
    let digits := toString number
    let lead := if counts then String.ofList (List.replicate (6 - digits.length) ' ') ++ digits ++ "\t" else ""
    ((lead ++ tabs line) :: shown, if counts then number + 1 else number)) (([] : List String), first)
  let all := shown.reverse
  (if closed then String.join (all.map fun line => line ++ ending ++ "\n")
    else String.join (all.dropLast.map fun line => line ++ ending ++ "\n") ++ all.getLast?.getD "", next)

def cat : Utility :=
  withOptions { plain := "nbsETAuvet", named := [("number", 'n'), ("number-nonblank", 'b'), ("show-ends", 'E'),
    ("squeeze-blank", 's'), ("show-tabs", 'T'), ("show-all", 'A'), ("show-nonprinting", 'v')] } 1 fun request session =>
    let isPlain := request.options.all fun (letter, _) => letter = 'u' || letter = 'v'
    let paths := if request.operands.isEmpty then ["-"] else request.operands
    (paths.foldl (fun (session, number) path =>
      match Session.operand session path with
      | (.error fault, session) => (session.refuse 1 (path ++ ": " ++ fault.reason), number)
      | (.ok content, session) =>
        if isPlain then (session.put content, number)
        else
          let (shown, number) := shownLines request content number
          (session.put shown, number)) (session.finish 0, 1)).1

def tee : Utility :=
  withOptions { plain := "aip", named := [("append", 'a'), ("ignore-interrupts", 'i')] } 1 fun request session =>
    let (bytes, session) := session.readAll
    let session := (session.finish 0).put bytes
    request.operands.foldl (fun session path =>
      if Session.devices.contains path then session
      else
        match Session.descriptorOf? path with
        | some descriptor => (session.write? descriptor bytes).getD session
        | none =>
          let content := Bytes.toContent bytes
          let name := Bytes.toText path
          let result := if request.has 'a' then session.tree.append name content else session.tree.write name content
          match session.withTree path result with
          | .ok session => session
          | .error message => session.refuse 1 message) session

/-- A number with blanks in front of it up to a width. -/
def padded (width : Nat) (text : String) : String :=
  String.ofList (List.replicate (width - text.length) ' ') ++ text

def wordCount (chars : List Char) : Nat :=
  let isSpace (c : Char) : Bool := c = ' ' || ('\t' ≤ c && c ≤ '\r')
  (chars.foldl (fun (count, inside) c => if isSpace c then (count, false) else (if inside then count else count + 1, true))
    ((0 : Nat), false)).1

def wc : Utility :=
  withOptions { plain := "lwcmL", named := [("lines", 'l'), ("words", 'w'), ("bytes", 'c'), ("chars", 'm'),
    ("max-line-length", 'L')] } 1 fun request session =>
    let (found, session) := session.readEach request.operands
    let asks (letter : Char) : Bool := request.has letter || (request.options.isEmpty && "lwc".toList.contains letter)
    let counts (text : String) : List Nat :=
      let chars := text.toList
      (if asks 'l' then [(chars.filter (· = '\n')).length] else []) ++ (if asks 'w' then [wordCount chars] else []) ++
        (if asks 'm' then [chars.length] else []) ++ (if asks 'c' then [chars.length] else []) ++
        (if asks 'L' then [((Lines.ofText text).map List.length).foldl max 0] else [])
    let rows := found.map fun (path, text) => (path, counts text)
    let widthOf (columns : List Nat) : Nat := columns.foldl max 0
    let total := rows.foldl (fun sums (_, columns) =>
      if sums.isEmpty then columns else sums.zipWith (· + ·) columns) ([] : List Nat)
    let fromInput := rows.any fun (path, _) => path = "-"
    let single := (rows.headD ("", [])).2.length ≤ 1 && request.operands.length ≤ 1
    let bytes := (found.map fun (_, text) => text.length).foldl (· + ·) 0
    let width := if single then 1
      else if fromInput && request.operands.length ≤ 1 then 7
      else if fromInput then max 7 (toString (widthOf total)).length
      else (toString bytes).length
    let row (name : String) (columns : List Nat) : String :=
      " ".intercalate (columns.map fun n => padded width (toString n)) ++ (if name = "" then "" else " " ++ name) ++ "\n"
    let shown := rows.map fun (path, columns) => row (if request.operands.isEmpty then "" else path) columns
    let summary := if request.operands.length > 1 then row "total" (if total.isEmpty then counts "" else total) else ""
    session.put (String.join shown ++ summary)

/-- The arguments with a count behind a dash written as an option. -/
def withCount : List String → List String
  | first :: rest =>
    match first.toList with
    | '-' :: c :: digits =>
      if (c :: digits).all Char.isDigit then "-n" :: String.ofList (c :: digits) :: rest else first :: rest
    | _ => first :: rest
  | [] => []

def header (quiet : Bool) (index : Nat) (path : String) : String :=
  if quiet then "" else (if index = 0 then "" else "\n") ++ "==> " ++
    (if path = "-" then "standard input" else path) ++ " <==\n"

def closedLines (text : String) : List (List Char) :=
  let rec collect : List Char → List Char → List (List Char)
    | [], [] => []
    | current, [] => [current.reverse]
    | current, '\n' :: rest => ('\n' :: current).reverse :: collect [] rest
    | current, c :: rest => collect (c :: current) rest
  collect [] text.toList

/-- Shows a part of each file, chosen by a number of lines or bytes. -/
def extract (lines bytes : List Char → Option (List (List Char) → List (List Char))) (request : Request)
    (session : Session) : Session :=
  let asked := (request.options.reverse.find? fun (letter, _) => letter = 'n' || letter = 'c').getD ('n', "10")
  let chosen := if asked.1 = 'n' then lines asked.2.toList else bytes asked.2.toList
  match chosen with
  | none =>
    session.refuse 1 ("invalid number of " ++ (if asked.1 = 'n' then "lines" else "bytes") ++ ": " ++
      Session.quoted asked.2)
  | some choose =>
    let (found, session) := session.readEach request.operands Session.opening
    let quiet := request.has 'q' || (request.operands.length < 2 && !request.has 'v')
    let shown := found.zipIdx.map fun ((path, text), index) =>
      let parts := if asked.1 = 'n' then closedLines text else text.toList.map fun c => [c]
      header quiet index path ++ String.ofList (choose parts).flatten
    session.put (String.join shown)

/-- Options of the programs that show a part of each file. -/
def partOptions : OptionTable :=
  { plain := "qvfF", valued := "nc", named := [("lines", 'n'), ("bytes", 'c'), ("quiet", 'q'), ("verbose", 'v')] }

def head : Utility := fun arguments =>
  let choose (text : List Char) : Option (List (List Char) → List (List Char)) :=
    match text with
    | '-' :: digits => (Lines.size? (String.ofList digits)).map fun n parts => parts.take (parts.length - n)
    | digits => (Lines.size? (String.ofList digits)).map fun n parts => parts.take n
  withOptions partOptions 1 (fun request session => extract choose choose request session) (withCount arguments)

def tail : Utility := fun arguments =>
  let choose (text : List Char) : Option (List (List Char) → List (List Char)) :=
    match text with
    | '+' :: digits => (Lines.size? (String.ofList digits)).map fun n parts => parts.drop (n - 1)
    | '-' :: digits => (Lines.size? (String.ofList digits)).map fun n parts => parts.drop (parts.length - n)
    | digits => (Lines.size? (String.ofList digits)).map fun n parts => parts.drop (parts.length - n)
  let arguments := match arguments with
    | first :: rest =>
      match first.toList with
      | '+' :: digits =>
        if !digits.isEmpty && digits.all Char.isDigit then "-n" :: first :: rest else first :: rest
      | _ => withCount (first :: rest)
    | [] => []
  withOptions partOptions 1 (fun request session => extract choose choose request session) arguments

def tac : Utility :=
  withOptions { plain := "br", valued := "s" } 1 fun request session =>
    let (found, session) := session.readEach request.operands fun path => "failed to open '" ++ path ++ "' for reading"
    session.put (String.join (found.map fun (_, text) => String.ofList (closedLines text).reverse.flatten))

def rev : Utility := fun arguments session =>
  let (found, session) := session.readEach arguments fun path => "cannot open " ++ path
  session.put (String.join (found.map fun (_, text) =>
    let shown := "\n".intercalate ((text.toList.splitOn '\n').map fun line => String.ofList line.reverse)
    shown))

/-- Shows lines that follow one another and are the same once, or only those, or only the others. -/
def uniq : Utility :=
  withOptions { plain := "cdui", valued := "fsw", named := [("count", 'c'), ("repeated", 'd'), ("unique", 'u'),
    ("ignore-case", 'i'), ("skip-fields", 'f'), ("skip-chars", 's'), ("check-chars", 'w')] } 1 fun request session =>
    let (found, session) := session.readEach (request.operands.take 1)
    let skipFields (count : Nat) (line : List Char) : List Char :=
      (List.range count).foldl (fun line _ =>
        let isBlank (c : Char) : Bool := c = ' ' || c = '\t'
        (line.dropWhile isBlank).dropWhile fun c => !isBlank c) line
    let number (letter : Char) : Nat := ((request.value? letter).bind Lines.count?).getD 0
    let key (line : List Char) : List Char :=
      let kept := (skipFields (number 'f') line).drop (number 's')
      let kept := if request.has 'w' then kept.take (number 'w') else kept
      if request.has 'i' then kept.map Char.toLower else kept
    let groups := (found.flatMap fun (_, text) => Lines.ofText text).foldl
      (fun (groups : List (List Char × Nat)) line =>
        match groups with
        | (first, count) :: rest => if key first = key line then (first, count + 1) :: rest else (line, 1) :: groups
        | [] => [(line, 1)]) []
    let kept := groups.reverse.filter fun (_, count) =>
      (!request.has 'd' || count > 1) && (!request.has 'u' || count = 1)
    let text := String.join (kept.map fun (line, count) =>
      (if request.has 'c' then padded 7 (toString count) ++ " " else "") ++ String.ofList line ++ "\n")
    match request.operands with
    | [_, target] =>
      match session.withTree target (session.tree.write (Bytes.toText target) (Bytes.toContent text)) with
      | .ok session => session
      | .error message => session.refuse 1 message
    | _ => session.put text

def nl : Utility :=
  withOptions { plain := "p", valued := "bwsvi", named := [("body-numbering", 'b'), ("number-width", 'w')] } 1
    fun request session =>
      let (found, session) := session.readEach request.operands
      let width := ((request.value? 'w').bind Lines.count?).getD 6
      let joint := (request.value? 's').getD "\t"
      let all := request.value? 'b' = some "a"
      let (shown, _) := (found.flatMap fun (_, text) => Lines.ofText text).foldl (fun (shown, number) line =>
        if all || !line.isEmpty then
          ((padded width (toString number) ++ joint ++ String.ofList line ++ "\n") :: shown, number + 1)
        else ((String.ofList (List.replicate (width + joint.length) ' ') ++ "\n") :: shown, number))
        (([] : List String), ((request.value? 'v').bind Lines.count?).getD 1)
      session.put (String.join shown.reverse)

def fold : Utility :=
  withOptions { plain := "bs", valued := "w", named := [("width", 'w'), ("spaces", 's'), ("bytes", 'b')] } 1
    fun request session =>
      let (found, session) := session.readEach request.operands
      let width := max 1 (((request.value? 'w').bind Lines.count?).getD 80)
      let rec broken : Nat → List Char → List (List Char)
        | 0, line => [line]
        | fuel + 1, line =>
          if line.length ≤ width then [line]
          else
            let front := line.take width
            let kept := if request.has 's' && front.contains ' ' then (front.reverse.dropWhile (· ≠ ' ')).reverse else front
            kept :: broken fuel (line.drop kept.length)
      session.put (String.join (found.map fun (_, text) =>
        "\n".intercalate (((text.toList.splitOn '\n').flatMap fun line => broken line.length line).map String.ofList)))

end Utility

end GuardedPlan.Shell
