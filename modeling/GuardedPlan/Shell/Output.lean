import GuardedPlan.Number.Formatted
import GuardedPlan.Shell.Arithmetic
import GuardedPlan.Shell.Deeper

/-!
# Printing commands

`echo` and `printf`, which the shell has itself: escapes behind backslashes, and formats that are used again as long as arguments are left.
-/

namespace GuardedPlan.Shell

namespace Output

/-! ### Escapes -/

def isOctal (c : Char) : Bool :=
  '0' ≤ c && c ≤ '7'

/-- The character of up to three octal digits at the front, and the rest. -/
def octal (input : List Char) : Char × List Char :=
  let digits := (input.take 3).takeWhile isOctal
  (Char.ofNat (digits.foldl (fun n c => n * 8 + (c.toNat - '0'.toNat)) 0 % 256), input.drop digits.length)

def escape? (c : Char) : Option Char :=
  match c with
  | 'a' => some '\x07'
  | 'b' => some '\x08'
  | 'e' => some '\x1b'
  | 'f' => some '\x0c'
  | 'n' => some '\n'
  | 'r' => some '\r'
  | 't' => some '\t'
  | 'v' => some '\x0b'
  | '\\' => some '\\'
  | _ => none

/-- The character of an escape after its backslash, and the rest; an unknown escape is a backslash. -/
def escaped (input : List Char) : Char × List Char :=
  match input with
  | c :: rest =>
    if isOctal c then octal input
    else
      match escape? c with
      | some meant => (meant, rest)
      | none => ('\\', input)
  | [] => ('\\', [])

/-- A text with its escapes resolved, where an octal escape may begin with a further zero, and whether it says that all output ends there. -/
def unescaped : Nat → List Char → List Char × Bool
  | 0, _ => ([], false)
  | _ + 1, [] => ([], false)
  | _ + 1, '\\' :: 'c' :: _ => ([], true)
  | fuel + 1, '\\' :: rest =>
    let digits := match rest with
      | '0' :: c :: more => if isOctal c then c :: more else rest
      | rest => rest
    let (meant, rest) := escaped digits
    let (more, ends) := unescaped fuel rest
    (meant :: more, ends)
  | fuel + 1, c :: rest =>
    let (more, ends) := unescaped fuel rest
    (c :: more, ends)

/-! ### Formats -/

/-- How a value is written: flags, the least width and the precision. -/
structure Format where
  alternate : Bool := false
  alignsLeft : Bool := false
  plus : Bool := false
  blank : Bool := false
  zeros : Bool := false
  width : Nat := 0
  precision : Option Nat := none

/-- Fills a text up to the width of a format. -/
def Format.filled (format : Format) (lead digits : List Char) (mayFill : Bool) : List Char :=
  let missing := format.width - (lead.length + digits.length)
  if format.alignsLeft then lead ++ digits ++ List.replicate missing ' '
  else if format.zeros && mayFill then lead ++ List.replicate missing '0' ++ digits
  else List.replicate missing ' ' ++ lead ++ digits

def Format.text (format : Format) (chars : List Char) : List Char :=
  format.filled [] (format.precision.elim chars chars.take) false

def Format.sign (format : Format) (isNegative : Bool) : List Char :=
  if isNegative then ['-'] else if format.plus then ['+'] else if format.blank then [' '] else []

/-- Digits of an integer with as many of them as the precision asks for; a zero of none has none. -/
def Format.digits (format : Format) (base size : Nat) : List Char :=
  let digits := if size = 0 && format.precision = some 0 then [] else Nat.toDigits base size
  List.replicate (format.precision.getD 1 - digits.length) '0' ++ digits

def Format.signed (format : Format) (value : Int) : List Char :=
  format.filled (format.sign (value < 0)) (format.digits 10 value.natAbs) format.precision.isNone

/-- An unsigned integer in a format, for one of the letters that stand for one. -/
def Format.unsigned (format : Format) (letter : Char) (size : Nat) : List Char :=
  let isHex := letter = 'x' || letter = 'X'
  let digits := format.digits (if isHex then 16 else if letter = 'o' then 8 else 10) size
  let digits := if letter = 'X' then digits.map Char.toUpper else digits
  let digits :=
    if letter = 'o' && format.alternate && digits.head? ≠ some '0' then '0' :: digits else digits
  let lead := if isHex && format.alternate && size ≠ 0 then ['0', letter] else []
  format.filled lead digits format.precision.isNone

/-- A floating-point number in a format, for one of the letters that stand for one. -/
def Format.float (format : Format) (letter : Char) (x : Binary64) : List Char :=
  let places := format.precision.getD 6
  let lower := letter.toLower
  let digits :=
    if lower = 'f' then x.fixedChars places format.alternate
    else if lower = 'e' then x.scientificChars places format.alternate
    else x.generalChars places format.alternate
  format.filled (format.sign x.negative) (if letter.isUpper then digits.map Char.toUpper else digits) true

/-! ### Arguments -/

/-- The work on a format: what was printed, in reverse, the arguments that are left, what is complained of, the status and whether all output ends. -/
structure Work where
  printed : List Char := []
  arguments : List String
  complaints : List String := []
  status : Nat := 0
  ends : Bool := false
  fault : Option String := none

def Work.add (work : Work) (chars : List Char) : Work :=
  { work with printed := chars.reverse ++ work.printed }

def Work.complain (work : Work) (argument text : String) : Work :=
  { work with complaints := work.complaints ++ [argument ++ ": " ++ text], status := 1 }

def Work.next (work : Work) : String × Work :=
  (work.arguments.headD "", { work with arguments := work.arguments.tail })

/-- The number at the front of an argument with its sign, and whether something follows it or precedes a number. -/
def numberAt (chars : List Char) : Option (Bool × Nat × List Char) :=
  let chars := chars.dropWhile Arithmetic.isSpace
  let (isNegative, digits) := match chars with
    | '-' :: rest => (true, rest)
    | '+' :: rest => (false, rest)
    | rest => (false, rest)
  (Arithmetic.natural? digits).map fun (size, rest) => (isNegative, size, rest)

def Work.integer (work : Work) (isSigned : Bool) : Int × Work :=
  match work.arguments with
  | [] => (0, work)
  | argument :: arguments =>
    let work := { work with arguments := arguments }
    match argument.toList with
    | '"' :: rest => ((rest.headD '\x00').toNat, work)
    | '\'' :: rest => ((rest.headD '\x00').toNat, work)
    | chars =>
      match numberAt chars with
      | none => (0, if chars.isEmpty then work else work.complain argument "expected numeric value")
      | some (isNegative, size, rest) =>
        let limit := if isSigned then (if isNegative then Nat.pow 2 63 else Nat.pow 2 63 - 1) else Nat.pow 2 64 - 1
        let value : Int := if isNegative then -(min size limit : Nat) else (min size limit : Nat)
        if limit < size then (value, work.complain argument "Numerical result out of range")
        else if rest.isEmpty then (value, work)
        else (value, work.complain argument "not completely converted")

/-- The decimal number at the front of a text and the rest. -/
def decimalAt (chars : List Char) : Option (Binary64 × List Char) :=
  let chars := chars.dropWhile Arithmetic.isSpace
  let (isNegative, body) := match chars with
    | '-' :: rest => (true, rest)
    | '+' :: rest => (false, rest)
    | rest => (false, rest)
  let whole := body.takeWhile Char.isDigit
  let afterWhole := body.drop whole.length
  let fraction := match afterWhole with
    | '.' :: rest => rest.takeWhile Char.isDigit
    | _ => []
  let rest := match afterWhole with
    | '.' :: rest => if (whole ++ fraction).isEmpty then afterWhole else rest.drop fraction.length
    | rest => rest
  let (exponent, rest) : Int × List Char := match rest with
    | e :: after =>
      if e = 'e' ∨ e = 'E' then
        let (isDown, digits) := match after with
          | '-' :: rest => (true, rest)
          | '+' :: rest => (false, rest)
          | rest => (false, rest)
        let found := digits.takeWhile Char.isDigit
        let size : Nat := found.foldl (fun n c => n * 10 + (c.toNat - '0'.toNat)) 0
        if found.isEmpty then (0, rest) else (if isDown then -(size : Int) else size, digits.drop found.length)
      else (0, rest)
    | [] => (0, [])
  if (whole ++ fraction).isEmpty then none
  else
    let digits := (whole ++ fraction).foldl (fun n c => n * 10 + (c.toNat - '0'.toNat)) 0
    (Binary64.ofDecimal? isNegative digits (exponent - fraction.length)).map fun x => (x, rest)

def Work.float (work : Work) : Binary64 × Work :=
  match work.arguments with
  | [] => (Binary64.zero false, work)
  | argument :: arguments =>
    let work := { work with arguments := arguments }
    match argument.toList with
    | '"' :: rest => ((Binary64.ofInt? (rest.headD '\x00').toNat).getD (Binary64.zero false), work)
    | '\'' :: rest => ((Binary64.ofInt? (rest.headD '\x00').toNat).getD (Binary64.zero false), work)
    | chars =>
      match decimalAt chars with
      | none =>
        (Binary64.zero false, if chars.isEmpty then work else work.complain argument "expected numeric value")
      | some (x, rest) => (x, if rest.isEmpty then work else work.complain argument "not completely converted")

def flags (format : Format) : List Char → Format × List Char
  | '#' :: rest => flags { format with alternate := true } rest
  | '-' :: rest => flags { format with alignsLeft := true } rest
  | '+' :: rest => flags { format with plus := true } rest
  | ' ' :: rest => flags { format with blank := true } rest
  | '0' :: rest => flags { format with zeros := true } rest
  | rest => (format, rest)

/-- Reads a count that is written or taken from an argument; nothing when there is none. -/
def count (work : Work) (input : List Char) : Option Int × List Char × Work :=
  match input with
  | '*' :: rest =>
    let (value, work) := work.integer true
    (some value, rest, work)
  | input =>
    let digits := input.takeWhile Char.isDigit
    if digits.isEmpty then (none, input, work)
    else (some (digits.foldl (fun n c => n * 10 + (c.toNat - '0'.toNat)) 0 : Nat), input.drop digits.length, work)

def convert (work : Work) (format : Format) (directive : String) (letter : Char) : Work :=
  if letter = 's' then
    let (argument, work) := work.next
    work.add (format.text argument.toList)
  else if letter = 'b' then
    let (argument, work) := work.next
    let (shown, ends) := unescaped (argument.length + 1) argument.toList
    { work.add (format.text shown) with ends := ends }
  else if letter = 'c' then
    let (argument, work) := work.next
    work.add (format.filled [] [argument.toList.headD '\x00'] false)
  else if letter = 'd' || letter = 'i' then
    let (value, work) := work.integer true
    work.add (format.signed value)
  else if "ouxX".toList.contains letter then
    let (value, work) := work.integer false
    work.add (format.unsigned letter (value % Int.pow 2 64).toNat)
  else if "eEfFgG".toList.contains letter then
    let (value, work) := work.float
    work.add (format.float letter value)
  else { work with fault := some (directive ++ ": invalid directive"), ends := true, status := 2 }

def pass : Nat → List Char → Work → Work
  | 0, _, work => work
  | _ + 1, [], work => work
  | fuel + 1, '\\' :: rest, work =>
    let (meant, rest) := escaped rest
    pass fuel rest (work.add [meant])
  | fuel + 1, '%' :: '%' :: rest, work => pass fuel rest (work.add ['%'])
  | fuel + 1, '%' :: rest, work =>
    let (format, afterFlags) := flags {} rest
    let (width, afterWidth, work) := count work afterFlags
    let (precision, afterPrecision, work) := match afterWidth with
      | '.' :: more =>
        let (found, more, work) := count work more
        (some (found.getD 0), more, work)
      | more => (none, more, work)
    let format := { format with
      width := (width.getD 0).natAbs
      alignsLeft := format.alignsLeft || width.any (· < 0)
      precision := precision.bind fun found => if found < 0 then none else some found.toNat }
    match afterPrecision with
    | [] => { work with fault := some "missing format character", ends := true, status := 2 }
    | letter :: after =>
      let directive := String.ofList ('%' :: rest.take (rest.length - after.length))
      let work := convert work format directive letter
      if work.ends then work else pass fuel after work
  | fuel + 1, c :: rest, work => pass fuel rest (work.add [c])

/-- Goes over a format again as long as it takes arguments and some are left. -/
def passes : Nat → List Char → Work → Work
  | 0, _, work => work
  | fuel + 1, format, work =>
    let before := work.arguments.length
    let work := pass (format.length + 1) format work
    if work.ends || work.arguments.isEmpty || work.arguments.length = before then work else passes fuel format work

end Output

namespace Utility

def printed (name bytes : String) (session : Session) : Session :=
  if bytes = "" then session.finish 0
  else
    match session.write? 1 bytes with
    | some session => session.finish 0
    | none => (session.report (name ++ ": I/O error")).finish 1

/-- Prints its arguments with spaces between them and a line break at the end, unless the first one is `-n`. -/
def echo : Utility := fun arguments session =>
  let (breaks, arguments) := match arguments with
    | "-n" :: rest => (false, rest)
    | arguments => (true, arguments)
  let text := (" ".intercalate arguments).toList
  let (shown, ends) := Output.unescaped (text.length + 1) text
  printed "echo" (String.ofList (if breaks && !ends then shown ++ ['\n'] else shown)) session

def printf : Utility := fun arguments session =>
  let refuse (text : String) : Session := (session.report text).finish 2
  let formatted (format : String) (arguments : List String) : Session :=
    let work := Output.passes (arguments.length + 1) format.toList { arguments := arguments }
    let session := work.complaints.foldl Session.report session
    let session := work.fault.elim session session.report
    let ended := printed "printf" (String.ofList work.printed.reverse) session
    if ended.status ≠ 0 then ended else ended.finish work.status
  match arguments with
  | [] => refuse "usage: printf format [arg ...]"
  | "--" :: format :: arguments => formatted format arguments
  | ["--"] => refuse "usage: printf format [arg ...]"
  | format :: arguments =>
    match format.toList with
    | '-' :: c :: _ => refuse ("Illegal option -" ++ String.ofList [c])
    | _ => formatted format arguments

end Utility

end GuardedPlan.Shell
