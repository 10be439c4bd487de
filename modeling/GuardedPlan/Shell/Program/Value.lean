import GuardedPlan.Regular.Parser
import GuardedPlan.Shell.Condition
import GuardedPlan.Shell.Output
import GuardedPlan.Shell.Program.Line

/-!
# Programs that work out values

Expressions whose operators and operands are arguments, sequences of numbers, repeated texts, durations, and the programs that print and test what they are given.
-/

namespace GuardedPlan.Shell

namespace Calculation

def integer? (text : String) : Option Int :=
  match text.toList with
  | '-' :: digits => (Signal.decimal? (String.ofList digits)).map fun n => -(n : Int)
  | _ => (Signal.decimal? text).map Int.ofNat

/-- Whether a value counts as nothing: an empty text or zero. -/
def isNull (text : String) : Bool :=
  text = "" || (integer? text = some 0)

abbrev Reading := Except String (String × List String)

/-- How tightly operators bind, from the loosest on. -/
def levels : List (List String) :=
  [["|"], ["&"], ["<", "<=", "=", "==", "!=", ">=", ">"], ["+", "-"], ["*", "/", "%"], [":"]]

/-- What a text is from the first match of an expression at its start: a group, or the number of characters. -/
def matching (text pattern : String) : Except String String :=
  match Regular.read false pattern.toList with
  | .error fault => .error fault.message
  | .ok expression =>
    let hasGroup := (pattern.splitOn "\\(").length > 1
    match Regular.matchAt? {} expression (.ofLine text.toList) with
    | some found => .ok (if hasGroup then String.ofList (found.groupText text.toList 1) else toString (found.last - found.first))
    | none => .ok (if hasGroup then "" else "0")

def apply (operator a b : String) : Except String String :=
  let number (holds : Int → Int → Except String Int) : Except String String :=
    match integer? a, integer? b with
    | some x, some y => (holds x y).map toString
    | _, _ => .error "non-integer argument"
  let compared (order : Ordering → Bool) : Except String String :=
    let found := match integer? a, integer? b with
      | some x, some y => compare x y
      | _, _ => compare a b
    .ok (if order found then "1" else "0")
  match operator with
  | "|" => .ok (if !isNull a then a else if isNull b then "0" else b)
  | "&" => .ok (if isNull a || isNull b then "0" else a)
  | "<" => compared (· = .lt)
  | "<=" => compared (· ≠ .gt)
  | "=" => compared (· = .eq)
  | "==" => compared (· = .eq)
  | "!=" => compared (· ≠ .eq)
  | ">=" => compared (· ≠ .lt)
  | ">" => compared (· = .gt)
  | "+" => number fun x y => .ok (x + y)
  | "-" => number fun x y => .ok (x - y)
  | "*" => number fun x y => .ok (x * y)
  | "/" => number fun x y => if y = 0 then .error "division by zero" else .ok (x.tdiv y)
  | "%" => number fun x y => if y = 0 then .error "division by zero" else .ok (x.tmod y)
  | _ => matching a b

mutual

/-- Reads an expression whose operators bind as tightly as one of the levels. -/
def level : Nat → List (List String) → List String → Reading
  | 0, _, _ => .error "syntax error"
  | fuel + 1, [], arguments => primary fuel arguments
  | fuel + 1, operators :: tighter, arguments => do
    let (first, rest) ← level fuel tighter arguments
    chain fuel operators tighter first rest

def chain : Nat → List String → List (List String) → String → List String → Reading
  | 0, _, _, first, rest => .ok (first, rest)
  | fuel + 1, operators, tighter, first, rest =>
    match rest with
    | operator :: more =>
      if operators.contains operator then do
        if more.isEmpty then .error ("syntax error: missing argument after '" ++ operator ++ "'")
        else
          let (second, rest) ← level fuel tighter more
          let value ← apply operator first second
          chain fuel operators tighter value rest
      else .ok (first, operator :: more)
    | [] => .ok (first, [])

def primary : Nat → List String → Reading
  | 0, _ => .error "syntax error"
  | _ + 1, [] => .error "syntax error: missing argument"
  | fuel + 1, first :: rest => do
    let one (rest : List String) : Reading := primary fuel rest
    match first, rest with
    | "(", rest => do
      let (value, rest) ← level fuel levels rest
      match rest with
      | ")" :: rest => return (value, rest)
      | other :: _ => .error ("syntax error: expecting ')' instead of '" ++ other ++ "'")
      | [] => .error "syntax error: expecting ')' after '('"
    | ")", _ => .error "syntax error: unexpected ')'"
    | "+", next :: rest => return (next, rest)
    | "length", _ :: _ => do
      let (value, rest) ← one rest
      return (toString value.length, rest)
    | "match", _ :: _ => do
      let (text, rest) ← one rest
      let (pattern, rest) ← one rest
      return (← matching text pattern, rest)
    | "index", _ :: _ => do
      let (text, rest) ← one rest
      let (wanted, rest) ← one rest
      let before := (text.toList.takeWhile fun c => !wanted.toList.contains c).length
      return (toString (if before < text.length then before + 1 else 0), rest)
    | "substr", _ :: _ => do
      let (text, rest) ← one rest
      let (first, rest) ← one rest
      let (count, rest) ← one rest
      match integer? first, integer? count with
      | some (.ofNat (start + 1)), some (.ofNat size) =>
        return (String.ofList ((text.toList.drop start).take size), rest)
      | _, _ => return ("", rest)
    | first, rest => return (first, rest)

end

end Calculation

namespace Utility

/-- Works out an expression; the status says whether the value counts as something. -/
def expr : Utility := fun arguments session =>
  let arguments := match arguments with
    | "--" :: rest => rest
    | arguments => arguments
  if arguments.isEmpty then lacking "operand" session |>.finish 2
  else
    match Calculation.level (16 * arguments.length + 32) Calculation.levels arguments with
    | .error message => session.refuse 2 message
    | .ok (_, other :: _) => session.refuse 2 ("syntax error: unexpected argument '" ++ other ++ "'")
    | .ok (value, []) => (session.put (value ++ "\n")).finish (if Calculation.isNull value then 1 else 0)

/-- A number with places behind the point, as a whole number of the smallest place. -/
def decimal? (text : String) : Option (Int × Nat) :=
  let (isNegative, chars) := match text.toList with
    | '-' :: rest => (true, rest)
    | '+' :: rest => (false, rest)
    | rest => (false, rest)
  let whole := chars.takeWhile Char.isDigit
  let fraction := match chars.drop whole.length with
    | '.' :: rest => some rest
    | [] => some []
    | _ => none
  fraction.bind fun fraction =>
    if (whole ++ fraction).isEmpty || !fraction.all Char.isDigit then none
    else
      let size : Nat := Regular.number (whole ++ fraction)
      some (if isNegative then -(size : Int) else size, fraction.length)

/-- A whole number of a place, written with that many places behind the point. -/
def withPlaces (value : Int) (places : Nat) : String :=
  let digits := toString value.natAbs
  let digits := String.ofList (List.replicate (places + 1 - digits.length) '0') ++ digits
  let whole := digits.toList.take (digits.length - places)
  let fraction := digits.toList.drop whole.length
  (if value < 0 then "-" else "") ++ String.ofList whole ++ (if places = 0 then "" else "." ++ String.ofList fraction)

def maxSequence : Nat := 200000

def seq : Utility := fun arguments session =>
  let rec options : Nat → List String → Request → Request
    | 0, _, request => request
    | fuel + 1, arguments, request =>
      match arguments with
      | "-w" :: rest => options fuel rest { request with options := ('w', "") :: request.options }
      | "-s" :: value :: rest => options fuel rest { request with options := ('s', value) :: request.options }
      | "-f" :: value :: rest => options fuel rest { request with options := ('f', value) :: request.options }
      | first :: rest =>
        match first.toList with
        | '-' :: 's' :: value =>
          options fuel rest { request with options := ('s', String.ofList value) :: request.options }
        | '-' :: 'f' :: value =>
          options fuel rest { request with options := ('f', String.ofList value) :: request.options }
        | _ => { request with operands := if first = "--" then rest else first :: rest }
      | [] => request
  let request := options (arguments.length + 1) arguments {}
  match request.operands.find? fun text => (decimal? text).isNone with
  | some bad => session.misused 1 ("invalid floating point argument: " ++ Session.quoted bad)
  | none =>
    let numbers := request.operands.filterMap decimal?
    let chosen? := match numbers with
      | [last] => some ((1, 0), (1, 0), last)
      | [first, last] => some (first, (1, 0), last)
      | [first, step, last] => some (first, step, last)
      | _ => none
    match chosen? with
    | none => if numbers.isEmpty then lacking "operand" session else
        session.misused 1 ("extra operand " ++ Session.quoted ((request.operands.drop 3).headD ""))
    | some (first, step, last) =>
      let places := max (max first.2 step.2) last.2
      let shownPlaces := max first.2 step.2
      let scaled (x : Int × Nat) : Int := x.1 * Int.pow 10 (places - x.2)
      let (a, d, z) := (scaled first, scaled step, scaled last)
      if d = 0 then session.misused 1 ("invalid Zero increment value: " ++ Session.quoted ((request.operands.drop 1).headD ""))
      else
        let count := if 0 < d then (if a ≤ z then ((z - a) / d).toNat + 1 else 0)
          else if z ≤ a then ((a - z) / (-d)).toNat + 1 else 0
        let values := (List.range (min count maxSequence)).map fun (n : Nat) => a + d * n
        let cut (value : Int) : Int := value / Int.pow 10 (places - shownPlaces)
        let texts := values.map fun value => withPlaces (cut value) shownPlaces
        let width := (texts.map String.length).foldl max 0
        let equal (text : String) : String :=
          match text.toList with
          | '-' :: rest => "-" ++ String.ofList (List.replicate (width - text.length) '0') ++ String.ofList rest
          | rest => String.ofList (List.replicate (width - text.length) '0' ++ rest)
        let texts := if request.has 'w' then texts.map equal
          else
            match request.value? 'f' with
            | some format => texts.map fun text =>
                String.ofList (Output.passes 1 format.toList { arguments := [text] }).printed.reverse
            | none => texts
        if texts.isEmpty then session.finish 0
        else (session.finish 0).put ((((request.options.find? fun option => option.1 = 's').map Prod.snd).getD "\n").intercalate texts ++ "\n")

/-- How many lines are printed where there is no end to them. -/
def endlessLines : Nat := 4096

/-- Prints a text again and again; whoever reads it stops that at some time. -/
def yes : Utility := fun arguments session =>
  let line := (if arguments.isEmpty then "y" else " ".intercalate arguments) ++ "\n"
  (session.put (String.join (List.replicate endlessLines line))).terminate Signal.brokenPipe

/-- The milliseconds that a text writes in seconds, or in the unit at its end. -/
def duration? (text : String) : Option Nat :=
  let chars := text.toList
  let (number, unit) := match chars.getLast? with
    | some 's' => (chars.dropLast, 1000)
    | some 'm' => (chars.dropLast, 60000)
    | some 'h' => (chars.dropLast, 3600000)
    | some 'd' => (chars.dropLast, 86400000)
    | _ => (chars, 1000)
  if String.ofList number = "infinity" || String.ofList number = "inf" then some (Nat.pow 2 62)
  else
    (decimal? (String.ofList number)).bind fun (value, places) =>
      if value < 0 then none else some (value.toNat * unit / Nat.pow 10 places)

def sleep : Utility := fun arguments session =>
  match arguments.mapM duration? with
  | some (time :: times) => (session.finish 0).sleep ((time :: times).foldl (· + ·) 0)
  | some [] => lacking "operand" session
  | none =>
    session.misused 1 ("invalid time interval " ++
      Session.quoted ((arguments.find? fun text => (duration? text).isNone).getD ""))

/-- Prints the variables that programs see, or the values of some of them. -/
def printenv : Utility := fun arguments session =>
  if arguments.isEmpty then
    (session.finish 0).put (String.join (session.environment.map fun (name, value) => name ++ "=" ++ value ++ "\n"))
  else
    arguments.foldl (fun session name =>
      match session.environment.lookup name with
      | some value => session.put (value ++ "\n")
      | none => session.finish 1) (session.finish 0)

/-- A text with the escapes of the program `echo`, and whether all output ends there. -/
def programEscapes : Nat → List Char → List Char × Bool
  | 0, _ => ([], false)
  | _ + 1, [] => ([], false)
  | _ + 1, '\\' :: 'c' :: _ => ([], true)
  | fuel + 1, '\\' :: '0' :: rest =>
    let (meant, rest) := Output.octal rest
    let (more, ends) := programEscapes fuel rest
    (meant :: more, ends)
  | fuel + 1, '\\' :: c :: rest =>
    let (more, ends) := programEscapes fuel rest
    match Output.escape? c with
    | some meant => (meant :: more, ends)
    | none => ('\\' :: c :: more, ends)
  | fuel + 1, c :: rest =>
    let (more, ends) := programEscapes fuel rest
    (c :: more, ends)

/-- The program `echo`, which leaves escapes alone unless it is asked not to. -/
def echoProgram : Utility := fun arguments session =>
  let options := arguments.takeWhile fun text =>
    text.length > 1 && text.startsWith "-" && (text.toList.drop 1).all fun c => c = 'n' || c = 'e' || c = 'E'
  let letters := options.flatMap fun text => text.toList.drop 1
  let text := (" ".intercalate (arguments.drop options.length)).toList
  let escapes := (letters.filter (· ≠ 'n')).getLast? = some 'e'
  let (shown, ends) := if escapes then programEscapes (text.length + 1) text else (text, false)
  (session.finish 0).put (String.ofList (if letters.contains 'n' || ends then shown else shown ++ ['\n']))

def testProgram : Utility := fun arguments session =>
  match Condition.value session arguments with
  | .ok holds => session.finish (if holds then 0 else 1)
  | .error fault => session.refuse 2 fault.message

def bracketProgram : Utility := fun arguments session =>
  match arguments.getLast? with
  | some "]" => testProgram arguments.dropLast session
  | _ => session.refuse 2 "missing ']'"

def pwdProgram : Utility := fun _ session =>
  (session.finish 0).put (session.directory ++ "\n")

def uname : Utility :=
  withOptions { plain := "asnrvmpio" } 1 fun request session =>
    (session.finish 0).put (if request.has 'm' then "x86_64\n" else "Linux\n")

def whoami : Utility := fun _ session =>
  (session.finish 0).put "root\n"

def id : Utility :=
  withOptions { plain := "ugnGr" } 1 fun request session =>
    (session.finish 0).put (if request.has 'n' then "root\n"
      else if request.options.isEmpty then "uid=0(root) gid=0(root) groups=0(root)\n" else "0\n")

end Utility

end GuardedPlan.Shell
