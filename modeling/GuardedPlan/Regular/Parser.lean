import GuardedPlan.Regular.Basic

/-!
# Reading regular expressions

Two ways of writing: in the basic one a backslash gives parentheses, braces and bars their meaning, in the extended one it takes it away. Brackets hold sets of characters in both.
-/

namespace GuardedPlan

inductive RegularFault where
  | openBracket
  | openGroup
  | closedGroup
  | openBrace
  | badBrace
  | nothingToRepeat
  | trailingBackslash
  | badRange
  | badClass
  | badReference
deriving DecidableEq, Repr

def RegularFault.message : RegularFault → String
  | openBracket => "Unmatched [, [^, [:, [., or [="
  | openGroup => "Unmatched ( or \\("
  | closedGroup => "Unmatched ) or \\)"
  | openBrace => "Unmatched \\\x7b"
  | badBrace => "Invalid content of \\\x7b\\\x7d"
  | nothingToRepeat => "Invalid preceding regular expression"
  | trailingBackslash => "Trailing backslash"
  | badRange => "Invalid range end"
  | badClass => "Invalid character class name"
  | badReference => "Invalid back reference"

namespace Regular

def char (c : Char) : Regular :=
  chars false [(c, c)]

def anyChar : Regular :=
  chars true []

def class? (name : String) : Option (List (Char × Char)) :=
  match name with
  | "alpha" => some [('A', 'Z'), ('a', 'z')]
  | "digit" => some [('0', '9')]
  | "alnum" => some [('0', '9'), ('A', 'Z'), ('a', 'z')]
  | "upper" => some [('A', 'Z')]
  | "lower" => some [('a', 'z')]
  | "space" => some [('\t', '\r'), (' ', ' ')]
  | "blank" => some [('\t', '\t'), (' ', ' ')]
  | "punct" => some [('!', '/'), (':', '@'), ('[', '\x60'), ('\x7b', '~')]
  | "print" => some [(' ', '~')]
  | "graph" => some [('!', '~')]
  | "cntrl" => some [('\x00', '\x1f'), ('\x7f', '\x7f')]
  | "xdigit" => some [('0', '9'), ('A', 'F'), ('a', 'f')]
  | _ => none

def wordRanges : List (Char × Char) :=
  [('0', '9'), ('A', 'Z'), ('_', '_'), ('a', 'z')]

def spaceRanges : List (Char × Char) :=
  [('\t', '\r'), (' ', ' ')]

/-- The text up to a character and a closing bracket, and the rest behind them. -/
def untilClosed (sign : Char) : List Char → Option (List Char × List Char)
  | [] => none
  | c :: rest =>
    if c = sign && rest.head? = some ']' then some ([], rest.drop 1)
    else (untilClosed sign rest).map fun (text, rest) => (c :: text, rest)

/-- Reads a member that is in a bracket of its own, with a sign around its name. -/
def special (sign : Char) (input : List Char) : Except RegularFault (List (Char × Char) × List Char) :=
  match sign, untilClosed sign input with
  | ':', some (name, rest) =>
    match class? (String.ofList name) with
    | some ranges => .ok (ranges, rest)
    | none => .error .badClass
  | _, some ([c], rest) => .ok ([(c, c)], rest)
  | _, _ => .error .openBracket

def member (c : Char) (rest : List Char) : Except RegularFault (List (Char × Char) × List Char) :=
  let alone : List (Char × Char) × List Char := ([(c, c)], rest)
  match rest with
  | sign :: after =>
    if c = '[' && [':', '.', '='].contains sign then special sign after
    else
      match sign, after with
      | '-', last :: after =>
        if last = ']' then .ok alone else if last < c then .error .badRange else .ok ([(c, last)], after)
      | _, _ => .ok alone
  | [] => .ok alone

/-- Reads the members of a bracket up to its end. -/
def members : Nat → Bool → List Char → Except RegularFault (List (Char × Char) × List Char)
  | 0, _, _ => .error .openBracket
  | _ + 1, _, [] => .error .openBracket
  | fuel + 1, isFirst, c :: rest => do
    if c = ']' && !isFirst then return ([], rest)
    else
      let (ranges, rest) ← member c rest
      let (more, rest) ← members fuel false rest
      return (ranges ++ more, rest)

def bracket (input : List Char) : Except RegularFault (Regular × List Char) := do
  let negated := input.head? = some '^'
  let input := if negated then input.drop 1 else input
  let (ranges, rest) ← members (input.length + 1) true input
  return (chars negated ranges, rest)

def number (digits : List Char) : Nat :=
  digits.foldl (fun n c => n * 10 + (c.toNat - '0'.toNat)) 0

/-- Reads how often something is repeated, after the opening brace: the bounds and what follows the digits. -/
def bounds (input : List Char) : Option (Nat × Option Nat × List Char) :=
  let least := input.takeWhile Char.isDigit
  match input.drop least.length with
  | ',' :: rest =>
    let most := rest.takeWhile Char.isDigit
    some (number least, if most.isEmpty then none else some (number most), rest.drop most.length)
  | rest => if least.isEmpty then none else some (number least, some (number least), rest)

/-- How an expression is written, and the groups that have been opened so far. -/
structure Reading where
  isExtended : Bool
  rest : List Char
  groups : Nat := 0
  isOpen : Nat := 0

def join : Regular → Regular → Regular
  | empty, second => second
  | first, empty => first
  | first, second => both first second

/-- The repetition that the front of the input asks for, and the rest behind it. -/
def repetition? (isExtended : Bool) (input : List Char) : Except RegularFault (Option (Nat × Option Nat × List Char)) :=
  let closed (found : Option (Nat × Option Nat × List Char)) : Option (Nat × Option Nat × List Char) :=
    found.bind fun (least, most, rest) =>
      match isExtended, rest with
      | true, '\x7d' :: rest => some (least, most, rest)
      | false, '\\' :: '\x7d' :: rest => some (least, most, rest)
      | _, _ => none
  match isExtended, input with
  | _, '*' :: rest => .ok (some (0, none, rest))
  | true, '+' :: rest => .ok (some (1, none, rest))
  | true, '?' :: rest => .ok (some (0, some 1, rest))
  | true, '\x7b' :: rest => .ok (closed (bounds rest))
  | false, '\\' :: '+' :: rest => .ok (some (1, none, rest))
  | false, '\\' :: '?' :: rest => .ok (some (0, some 1, rest))
  | false, '\\' :: '\x7b' :: rest =>
    match closed (bounds rest) with
    | some (least, most, rest) =>
      if most.any (· < least) then .error .badBrace else .ok (some (least, most, rest))
    | none => .error (if rest.contains '\x7d' then .badBrace else .openBrace)
  | _, _ => .ok none

def repetitions (isExtended : Bool) : Nat → Regular → List Char → Except RegularFault (Regular × List Char)
  | 0, body, input => .ok (body, input)
  | fuel + 1, body, input => do
    match ← repetition? isExtended input with
    | some (least, most, rest) => repetitions isExtended fuel (repeated body least most) rest
    | none => return (body, input)

/-- Whether the input goes on with the end of an alternative. -/
def endsHere (isExtended : Bool) (input : List Char) : Bool :=
  match isExtended, input with
  | _, [] => true
  | true, '|' :: _ => true
  | true, ')' :: _ => true
  | false, '\\' :: '|' :: _ => true
  | false, '\\' :: ')' :: _ => true
  | _, _ => false

mutual

def alternatives : Nat → Reading → Except RegularFault (Regular × Reading)
  | 0, reading => .ok (empty, reading)
  | fuel + 1, reading => do
    let (first, reading) ← sequence fuel true reading
    match reading.isExtended, reading.rest with
    | true, '|' :: rest => do
      let (second, reading) ← alternatives fuel { reading with rest := rest }
      return (either first second, reading)
    | false, '\\' :: '|' :: rest => do
      let (second, reading) ← alternatives fuel { reading with rest := rest }
      return (either first second, reading)
    | _, _ => return (first, reading)

/-- Reads one alternative; `isFirst` says that nothing of it has been read yet. -/
def sequence : Nat → Bool → Reading → Except RegularFault (Regular × Reading)
  | 0, _, reading => .ok (empty, reading)
  | fuel + 1, isFirst, reading => do
    if endsHere reading.isExtended reading.rest then
      match reading.isExtended, reading.isOpen, reading.rest with
      | true, 0, ')' :: _ => .error .closedGroup
      | false, 0, '\\' :: ')' :: _ => .error .closedGroup
      | _, _, _ => return (empty, reading)
    else
      let (atom, isAnchor, reading) ← atom fuel isFirst reading
      let repeats := reading.isExtended || !isAnchor
      let (atom, rest) ←
        if repeats then repetitions reading.isExtended reading.rest.length atom reading.rest
        else pure (atom, reading.rest)
      let (more, reading) ← sequence fuel (isAnchor && !reading.isExtended) { reading with rest := rest }
      return (join atom more, reading)

/-- Reads one atom and whether it is an anchor at the front. -/
def atom : Nat → Bool → Reading → Except RegularFault (Regular × Bool × Reading)
  | 0, _, reading => .ok (empty, false, reading)
  | fuel + 1, isFirst, reading => do
    let literal (c : Char) (rest : List Char) : Except RegularFault (Regular × Bool × Reading) :=
      .ok (char c, false, { reading with rest := rest })
    let found (expression : Regular) (rest : List Char) : Except RegularFault (Regular × Bool × Reading) :=
      .ok (expression, false, { reading with rest := rest })
    let grouped (rest : List Char) : Except RegularFault (Regular × Bool × Reading) := do
      let index := reading.groups + 1
      let (body, inside) ← alternatives fuel { reading with rest := rest, groups := index, isOpen := reading.isOpen + 1 }
      match reading.isExtended, inside.rest with
      | true, ')' :: rest => return (group index body, false, { inside with rest := rest, isOpen := reading.isOpen })
      | false, '\\' :: ')' :: rest =>
        return (group index body, false, { inside with rest := rest, isOpen := reading.isOpen })
      | _, _ => .error .openGroup
    match reading.isExtended, reading.rest with
    | _, '[' :: rest => do
      let (set, rest) ← bracket rest
      found set rest
    | _, '.' :: rest => found anyChar rest
    | true, '^' :: rest => return (start, true, { reading with rest := rest })
    | true, '$' :: rest => found finish rest
    | true, '(' :: rest => grouped rest
    | true, '*' :: rest => if isFirst then found empty rest else literal '*' rest
    | true, '+' :: rest => if isFirst then found empty rest else literal '+' rest
    | true, '?' :: rest => if isFirst then found empty rest else literal '?' rest
    | false, '^' :: rest =>
      if isFirst then return (start, true, { reading with rest := rest }) else literal '^' rest
    | false, '$' :: rest => if endsHere false rest then found finish rest else literal '$' rest
    | false, '\\' :: '(' :: rest => grouped rest
    | _, ['\\'] => .error .trailingBackslash
    | _, '\\' :: c :: rest =>
      match c with
      | 'w' => found (chars false wordRanges) rest
      | 'W' => found (chars true wordRanges) rest
      | 's' => found (chars false spaceRanges) rest
      | 'S' => found (chars true spaceRanges) rest
      | 'b' => found (wordEdge true) rest
      | 'B' => found (wordEdge false) rest
      | '<' => found wordStart rest
      | '>' => found wordFinish rest
      | '\x60' => found start rest
      | '\'' => found finish rest
      | '\x7b' => if reading.isExtended then literal c rest else .error .nothingToRepeat
      | c =>
        if '1' ≤ c && c ≤ '9' then
          let index := c.toNat - '0'.toNat
          if index ≤ reading.groups then found (reference index) rest else .error .badReference
        else literal c rest
    | _, c :: rest => literal c rest
    | _, [] => return (empty, false, reading)

end

def read (isExtended : Bool) (text : List Char) : Except RegularFault Regular := do
  let (expression, reading) ← alternatives (4 * text.length + 8) { isExtended := isExtended, rest := text }
  match reading.rest with
  | [] => return expression
  | _ => .error .closedGroup

def ofText (text : List Char) : Regular :=
  text.foldr (fun c more => join (char c) more) empty

end Regular

end GuardedPlan
