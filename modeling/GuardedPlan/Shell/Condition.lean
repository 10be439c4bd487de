import GuardedPlan.Shell.Session

/-!
# Conditions of the shell

The expressions of `test`: a string counts when it is not empty, and operators look at files, at strings and at integers. Whether a word is an operator depends on the words after it, so that a string may look like one.
-/

namespace GuardedPlan.Shell

inductive ConditionFault where
  | badNumber (text : String)
  | badOperator (text : String)
  | noOperand (operator : String)
  | notClosed
deriving DecidableEq, Repr

def ConditionFault.message : ConditionFault → String
  | badNumber text => "Illegal number: " ++ text
  | badOperator text => text ++ ": unexpected operator"
  | noOperand operator => operator ++ ": argument expected"
  | notClosed => "closing paren expected"

namespace Condition

inductive Kind where
  | nothing
  | operand
  | unary
  | binary
  | negation
  | conjunction
  | disjunction
  | opening
  | closing
deriving DecidableEq, Repr

def operator? (word : String) : Option Kind :=
  if ["-r", "-w", "-x", "-e", "-f", "-d", "-c", "-b", "-p", "-u", "-g", "-k", "-s", "-t", "-z", "-n", "-h", "-O", "-G",
      "-L", "-S"].contains word then some .unary
  else if ["=", "!=", "<", ">", "-eq", "-ne", "-ge", "-gt", "-le", "-lt", "-nt", "-ot", "-ef"].contains word then
    some .binary
  else
    match word with
    | "!" => some .negation
    | "-a" => some .conjunction
    | "-o" => some .disjunction
    | "(" => some .opening
    | ")" => some .closing
    | _ => none

/-- Whether a unary operator is only a string: when it comes last, or in front of a binary one with an operand. -/
def isOperand (rest : List String) : Bool :=
  match rest with
  | [] => true
  | [_] => false
  | next :: _ => operator? next = some .binary

def kind (words : List String) : Kind :=
  match words with
  | [] => .nothing
  | word :: rest =>
    match operator? word with
    | none => .operand
    | some .unary => if isOperand rest then .operand else .unary
    | some .opening => if rest.isEmpty then .operand else .opening
    | some found => found

/-- The integer that a text writes, white space around it aside. -/
def integer (text : String) : Except ConditionFault Int :=
  let isSpace (c : Char) : Bool := c = ' ' || ('\t' ≤ c && c ≤ '\r')
  let chars := ((text.toList.dropWhile isSpace).reverse.dropWhile isSpace).reverse
  let digits := match chars with
    | '-' :: rest => rest
    | '+' :: rest => rest
    | rest => rest
  let size : Nat := digits.foldl (fun n c => n * 10 + (c.toNat - '0'.toNat)) 0
  if digits.isEmpty || !digits.all Char.isDigit || Nat.pow 2 63 ≤ size then .error (.badNumber text)
  else .ok (if chars.head? = some '-' then -(size : Int) else size)

def unary (session : Session) (operator operand : String) : Bool :=
  match operator with
  | "-n" => operand ≠ ""
  | "-z" => operand = ""
  | "-f" => session.isFile operand
  | "-d" => session.isDirectory operand
  | "-c" => Session.devices.contains operand
  | "-x" =>
    match session.stat operand with
    | .ok .directory => true
    | .ok (.file _ isExecutable) => isExecutable
    | .error _ => false
  | "-s" =>
    match session.stat operand with
    | .ok (.file content _) => content.size ≠ 0
    | .ok .directory => true
    | .error _ => false
  | operator => ["-e", "-r", "-w", "-O", "-G"].contains operator && session.pathExists operand

def binary (session : Session) (left operator right : String) : Except ConditionFault Bool :=
  let compared (holds : Int → Int → Bool) : Except ConditionFault Bool := do
    return holds (← integer left) (← integer right)
  match operator with
  | "=" => .ok (left = right)
  | "!=" => .ok (left ≠ right)
  | "<" => .ok (left < right)
  | ">" => .ok (right < left)
  | "-eq" => compared fun a b => a = b
  | "-ne" => compared fun a b => a ≠ b
  | "-lt" => compared fun a b => a < b
  | "-le" => compared fun a b => a ≤ b
  | "-gt" => compared fun a b => b < a
  | "-ge" => compared fun a b => b ≤ a
  | "-ef" =>
    .ok (session.pathExists left &&
      match session.tree.locate (Bytes.toText left), session.tree.locate (Bytes.toText right) with
      | .ok a, .ok b => a = b
      | _, _ => false)
  | _ => .ok false

/-- A value, and the words from the last one on that it was read from. -/
abbrev Reading := Except ConditionFault (Bool × List String)

mutual

def disjunction (session : Session) : Nat → List String → Reading
  | 0, words => .ok (false, words)
  | fuel + 1, words => do
    let (value, words) ← conjunction session fuel words
    if kind (words.drop 1) = .disjunction then
      let (more, words) ← disjunction session fuel (words.drop 2)
      return (value || more, words)
    else return (value, words)

def conjunction (session : Session) : Nat → List String → Reading
  | 0, words => .ok (false, words)
  | fuel + 1, words => do
    let (value, words) ← negation session fuel words
    if kind (words.drop 1) = .conjunction then
      let (more, words) ← conjunction session fuel (words.drop 2)
      return (value && more, words)
    else return (value, words)

def negation (session : Session) : Nat → List String → Reading
  | 0, words => .ok (false, words)
  | fuel + 1, words =>
    if kind words = .negation then
      if words.length = 1 then .ok (true, words)
      else do
        let (value, words) ← negation session fuel (words.drop 1)
        return (!value, words)
    else primary session fuel words

def primary (session : Session) : Nat → List String → Reading
  | 0, words => .ok (false, words)
  | fuel + 1, words =>
    match kind words, words with
    | .nothing, words => .ok (false, words)
    | .opening, words =>
      if kind (words.drop 1) = .closing then .ok (false, words.drop 1)
      else do
        let (value, words) ← disjunction session fuel (words.drop 1)
        if kind (words.drop 1) = .closing then return (value, words.drop 1) else .error .notClosed
    | .unary, [operator] => .error (.noOperand operator)
    | .unary, operator :: operand :: rest => .ok (unary session operator operand, operand :: rest)
    | _, [word] => .ok (word ≠ "", [word])
    | _, word :: next :: rest =>
      if kind (next :: rest) = .binary then
        match rest with
        | [] => .error (.noOperand next)
        | right :: rest => do return (← binary session word next right, right :: rest)
      else .ok (word ≠ "", word :: next :: rest)
    | _, [] => .ok (false, [])

end

/-- The value of a condition that has to be all of some words. -/
def whole (session : Session) (words : List String) : Except ConditionFault Bool := do
  let (value, rest) ← disjunction session (8 * words.length + 8) words
  match rest with
  | last :: _ :: _ => .error (.badOperator last)
  | _ => return value

/-- The value of some words; three or four of them are told apart by what stands in the middle or around them. -/
def value (session : Session) (words : List String) : Except ConditionFault Bool :=
  match words with
  | [] => .ok false
  | [left, operator, right] =>
    if operator? operator = some .binary then binary session left operator right
    else if left = "(" ∧ right = ")" then whole session [operator]
    else if left = "!" then (pair operator right).map not
    else whole session words
  | [first, second, third, fourth] =>
    if first = "(" ∧ fourth = ")" then whole session [second, third]
    else if first = "!" then (triple second third fourth).map not
    else whole session words
  | words => whole session words
where
  /-- The value of two words. -/
  pair (first second : String) : Except ConditionFault Bool :=
    whole session [first, second]
  /-- The value of three words. -/
  triple (first second third : String) : Except ConditionFault Bool :=
    if operator? second = some .binary then binary session first second third
    else if first = "(" ∧ third = ")" then whole session [second]
    else if first = "!" then (pair second third).map not
    else whole session [first, second, third]

end Condition

end GuardedPlan.Shell
