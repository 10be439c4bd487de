import GuardedPlan.Shell.Session

/-!
# Arithmetic of the shell

Expressions over 64-bit integers that wrap around. A text is read into an expression by precedence; the value of an expression may change variables, and what is not needed for the value changes nothing.
-/

namespace GuardedPlan.Shell

/-- The operators between two values. -/
inductive Operation where
  | times
  | quotient
  | remainder
  | plus
  | minus
  | shiftLeft
  | shiftRight
  | less
  | lessOrEqual
  | greater
  | greaterOrEqual
  | equal
  | unequal
  | bitAnd
  | bitXor
  | bitOr
deriving DecidableEq, Repr

inductive Expression where
  | number (value : Int64)
  | name (name : String)
  | negative (operand : Expression)
  | opposite (operand : Expression)
  | complement (operand : Expression)
  | operation (operator : Operation) (left right : Expression)
  | both (left right : Expression)
  | either (left right : Expression)
  | condition (test first second : Expression)
  | assign (name : String) (operator : Option Operation) (value : Expression)
deriving Repr

inductive ArithmeticFault where
  | wantsPrimary
  | wantsEnd
  | wantsColon
  | wantsParenthesis
  | divisionByZero
  | badNumber (text : String)
  | fixed (name : String)
deriving DecidableEq, Repr

def ArithmeticFault.message (expression : String) : ArithmeticFault → String
  | wantsPrimary => "arithmetic expression: expecting primary: \"" ++ expression ++ "\""
  | wantsEnd => "arithmetic expression: expecting EOF: \"" ++ expression ++ "\""
  | wantsColon => "arithmetic expression: expecting ':': \"" ++ expression ++ "\""
  | wantsParenthesis => "arithmetic expression: expecting ')': \"" ++ expression ++ "\""
  | divisionByZero => "arithmetic expression: division by zero: \"" ++ expression ++ "\""
  | badNumber text => "Illegal number: " ++ text
  | fixed name => name ++ ": is read only"

namespace Arithmetic

/-! ### Numbers -/

def digit? (base : Nat) (c : Char) : Option Nat :=
  let size? :=
    if c.isDigit then some (c.toNat - '0'.toNat)
    else if 'a' ≤ c ∧ c ≤ 'f' then some (c.toNat - 'a'.toNat + 10)
    else if 'A' ≤ c ∧ c ≤ 'F' then some (c.toNat - 'A'.toNat + 10)
    else none
  size?.filter (· < base)

/-- The natural number at the front of a text, in the base that its first characters say, and the rest. -/
def natural? (input : List Char) : Option (Nat × List Char) :=
  let read (base : Nat) (digits : List Char) : Option (Nat × List Char) :=
    let found := digits.takeWhile fun c => (digit? base c).isSome
    if found.isEmpty then none
    else some (found.foldl (fun n c => n * base + (digit? base c).getD 0) 0, digits.drop found.length)
  match input with
  | '0' :: x :: rest =>
    if x = 'x' ∨ x = 'X' then (read 16 rest).orElse fun _ => some (0, x :: rest)
    else read 8 input
  | '0' :: rest => read 8 ('0' :: rest)
  | input => read 10 input

def largest : Nat := Nat.pow 2 63 - 1

/-- The integer nearest to one that may be too large. -/
def clamped (isNegative : Bool) (size : Nat) : Int64 :=
  if isNegative then Int64.ofInt (-(min size (largest + 1) : Nat)) else Int64.ofNat (min size largest)

def isSpace (c : Char) : Bool :=
  c = ' ' || ('\t' ≤ c && c ≤ '\r')

/-- The integer that a text writes, if it writes nothing else and one that is not too large. -/
def integer? (text : String) : Option Int64 :=
  let chars := text.toList.dropWhile isSpace
  let (isNegative, digits) := match chars with
    | '-' :: rest => (true, rest)
    | '+' :: rest => (false, rest)
    | rest => (false, rest)
  match natural? digits with
  | some (size, rest) =>
    if rest.all isSpace && size ≤ (if isNegative then largest + 1 else largest) then some (clamped isNegative size) else none
  | none => none

/-! ### Reading -/

/-- The operators with their texts; of two that fit the longer one comes first. -/
def operations : List (String × Operation) :=
  [("<<", .shiftLeft), (">>", .shiftRight), ("<=", .lessOrEqual), (">=", .greaterOrEqual), ("==", .equal),
    ("!=", .unequal), ("*", .times), ("/", .quotient), ("%", .remainder), ("+", .plus), ("-", .minus), ("<", .less),
    (">", .greater), ("&", .bitAnd), ("^", .bitXor), ("|", .bitOr)]

/-- The operators that may stand before an equals sign. -/
def assigners : List (String × Option Operation) :=
  [("<<=", some .shiftLeft), (">>=", some .shiftRight), ("*=", some .times), ("/=", some .quotient),
    ("%=", some .remainder), ("+=", some .plus), ("-=", some .minus), ("&=", some .bitAnd), ("^=", some .bitXor),
    ("|=", some .bitOr)]

/-- How tightly an operator binds; zero binds most tightly. -/
def rank : Operation → Nat
  | .times => 0
  | .quotient => 0
  | .remainder => 0
  | .plus => 1
  | .minus => 1
  | .shiftLeft => 2
  | .shiftRight => 2
  | .less => 3
  | .lessOrEqual => 3
  | .greater => 3
  | .greaterOrEqual => 3
  | .equal => 4
  | .unequal => 4
  | .bitAnd => 5
  | .bitXor => 6
  | .bitOr => 7

def ranks : Nat := 8

def skipBlanks (input : List Char) : List Char :=
  input.dropWhile isSpace

/-- The text at the front of the input, and the rest. -/
def after? (text : String) (input : List Char) : Option (List Char) :=
  if text.toList.isPrefixOf input then some (input.drop text.length) else none

/-- The operator at the front of the input and the rest. Operators of conditions are none, nor is one that assigns. -/
def operation? (input : List Char) : Option (Operation × List Char) :=
  if ["&&", "||"].any fun text => text.toList.isPrefixOf input then none
  else if assigners.any fun (text, _) => text.toList.isPrefixOf input then none
  else operations.findSome? fun (text, operator) => (after? text input).map fun rest => (operator, rest)

/-- The operator of an assignment at the front of the input and the rest. -/
def assigner? (input : List Char) : Option (Option Operation × List Char) :=
  match input with
  | '=' :: rest => if rest.head? = some '=' then none else some (none, rest)
  | input => assigners.findSome? fun (text, operator) => (after? text input).map fun rest => (operator, rest)

abbrev Reading := Except ArithmeticFault (Expression × List Char)

mutual

def assignment : Nat → List Char → Reading
  | 0, _ => .error .wantsPrimary
  | fuel + 1, input =>
    let input := skipBlanks input
    let name := input.takeWhile Word.isNameChar
    let isName := input.head?.any Word.isNameStart
    match isName, assigner? (skipBlanks (input.drop name.length)) with
    | true, some (operator, rest) => do
      let (value, rest) ← assignment fuel rest
      return (.assign (String.ofList name) operator value, rest)
    | _, _ => condition fuel input

/-- Reads a condition with its two values, or what binds more tightly. -/
def condition : Nat → List Char → Reading
  | 0, _ => .error .wantsPrimary
  | fuel + 1, input => do
    let (test, rest) ← disjunction fuel input
    match skipBlanks rest with
    | '?' :: rest => do
      let (first, rest) ← assignment fuel rest
      match skipBlanks rest with
      | ':' :: rest => do
        let (second, rest) ← condition fuel rest
        return (.condition test first second, rest)
      | _ => .error .wantsColon
    | rest => return (test, rest)

def disjunction : Nat → List Char → Reading
  | 0, _ => .error .wantsPrimary
  | fuel + 1, input => do
    let (left, rest) ← conjunction fuel input
    match after? "||" (skipBlanks rest) with
    | some rest => do
      let (right, rest) ← disjunction fuel rest
      return (.either left right, rest)
    | none => return (left, rest)

def conjunction : Nat → List Char → Reading
  | 0, _ => .error .wantsPrimary
  | fuel + 1, input => do
    let (first, rest) ← primary fuel input
    let (left, rest) ← operationsFrom fuel ranks first rest
    match after? "&&" (skipBlanks rest) with
    | some rest => do
      let (right, rest) ← conjunction fuel rest
      return (.both left right, rest)
    | none => return (left, rest)

/-- Reads operators that bind more tightly than a rank, after a first operand. -/
def operationsFrom : Nat → Nat → Expression → List Char → Reading
  | 0, _, _, _ => .error .wantsPrimary
  | fuel + 1, bound, left, input =>
    match operation? (skipBlanks input) with
    | none => .ok (left, input)
    | some (operator, rest) =>
      if bound ≤ rank operator then .ok (left, input)
      else do
        let (first, rest) ← primary fuel rest
        let (right, rest) ← operationsFrom fuel (rank operator) first rest
        operationsFrom fuel bound (.operation operator left right) rest

def primary : Nat → List Char → Reading
  | 0, _ => .error .wantsPrimary
  | fuel + 1, input =>
    match skipBlanks input with
    | '(' :: rest => do
      let (inside, rest) ← assignment fuel rest
      match skipBlanks rest with
      | ')' :: rest => return (inside, rest)
      | _ => .error .wantsParenthesis
    | '+' :: rest => primary fuel rest
    | '-' :: rest => do
      let (operand, rest) ← primary fuel rest
      return (.negative operand, rest)
    | '!' :: rest => do
      let (operand, rest) ← primary fuel rest
      return (.opposite operand, rest)
    | '~' :: rest => do
      let (operand, rest) ← primary fuel rest
      return (.complement operand, rest)
    | c :: rest =>
      if Word.isNameStart c then
        let name := c :: rest.takeWhile Word.isNameChar
        .ok (.name (String.ofList name), rest.drop (name.length - 1))
      else
        match natural? (c :: rest) with
        | some (size, rest) => .ok (.number (clamped false size), rest)
        | none => .error .wantsPrimary
    | [] => .error .wantsPrimary

end

def read (text : String) : Except ArithmeticFault Expression := do
  let (found, rest) ← assignment (8 * text.length + 16) text.toList
  if (skipBlanks rest).isEmpty then return found else .error .wantsEnd

/-! ### Values -/

/-- One for what holds, and zero for what does not. -/
def truth (holds : Bool) : Int64 :=
  if holds then 1 else 0

def apply (operator : Operation) (a b : Int64) : Except ArithmeticFault Int64 :=
  match operator with
  | .times => .ok (a * b)
  | .quotient => if b = 0 then .error .divisionByZero else .ok (a / b)
  | .remainder => if b = 0 then .error .divisionByZero else .ok (a % b)
  | .plus => .ok (a + b)
  | .minus => .ok (a - b)
  | .shiftLeft => .ok (a <<< (b &&& 63))
  | .shiftRight => .ok (a >>> (b &&& 63))
  | .less => .ok (truth (a < b))
  | .lessOrEqual => .ok (truth (a ≤ b))
  | .greater => .ok (truth (b < a))
  | .greaterOrEqual => .ok (truth (b ≤ a))
  | .equal => .ok (truth (a = b))
  | .unequal => .ok (truth (a ≠ b))
  | .bitAnd => .ok (a &&& b)
  | .bitXor => .ok (a ^^^ b)
  | .bitOr => .ok (a ||| b)

/-- The number that a variable holds; one without a value holds zero. -/
def lookup (session : Session) (name : String) : Except ArithmeticFault Int64 :=
  match session.value? name with
  | none => .ok 0
  | some "" => .ok 0
  | some text => (integer? text).elim (.error (.badNumber text)) .ok

def store (session : Session) (name : String) (value : Int64) : Except ArithmeticFault Session :=
  let found := session.variableOf name
  if found.isFixed then .error (.fixed name)
  else .ok (session.setVariable name { found with value := some (toString value.toInt) })

/-- The value of an expression and the session after it. -/
def value (session : Session) : Expression → Except ArithmeticFault (Int64 × Session)
  | .number n => .ok (n, session)
  | .name name => (lookup session name).map fun n => (n, session)
  | .negative operand => do
    let (n, session) ← value session operand
    return (-n, session)
  | .opposite operand => do
    let (n, session) ← value session operand
    return (truth (n = 0), session)
  | .complement operand => do
    let (n, session) ← value session operand
    return (~~~n, session)
  | .operation operator left right => do
    let (a, session) ← value session left
    let (b, session) ← value session right
    return (← apply operator a b, session)
  | .both left right => do
    let (a, session) ← value session left
    if a = 0 then return (0, session)
    else
      let (b, session) ← value session right
      return (truth (b ≠ 0), session)
  | .either left right => do
    let (a, session) ← value session left
    if a ≠ 0 then return (1, session)
    else
      let (b, session) ← value session right
      return (truth (b ≠ 0), session)
  | .condition test first second => do
    let (a, session) ← value session test
    if a ≠ 0 then value session first else value session second
  | .assign name operator body => do
    let (b, session) ← value session body
    let result ← match operator with
      | none => pure b
      | some operator => do apply operator (← lookup session name) b
    let session ← store session name result
    return (result, session)

def evaluate (session : Session) (text : String) : Except ArithmeticFault (Int64 × Session) := do
  value session (← read text)

end Arithmetic

end GuardedPlan.Shell
