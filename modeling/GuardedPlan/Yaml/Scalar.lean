import GuardedPlan.Yaml.Cursor

/-!
# YAML scalars

The three ways to write text: plain, between quotes, and as a block of lines. In plain and quoted scalars a single line end between words becomes a space, and of several line ends the first is dropped; a folded block does the same between lines that are not indented further.
-/

namespace GuardedPlan.Yaml

/-- How a scalar is written, as far as its meaning depends on it. -/
inductive ScalarStyle where
  | plain
  | quoted
deriving DecidableEq, Repr

namespace Scalar

/-- A run of white space between words: the blanks before any line end, the first line end and the further ones. -/
structure Gap where
  blanks : List Char := []
  first : List Char := []
  further : List Char := []
  broken : Bool := false

def Gap.text (gap : Gap) : List Char :=
  if gap.broken then
    if gap.first = ['\n'] then (if gap.further.isEmpty then [' '] else gap.further) else gap.first ++ gap.further
  else gap.blanks

/-- Reads white space; a tab before the column `tabsFrom` on a later line is an error. -/
def readGap (tabsFrom : Nat) : Nat → Gap → Cursor → Option (Gap × Cursor)
  | 0, _, _ => none
  | fuel + 1, gap, cursor =>
    match cursor.rest with
    | [] => some (gap, cursor)
    | c :: _ =>
      if isSpaceOrTab c then
        if gap.broken then
          if c = '\t' ∧ cursor.column < tabsFrom then none else readGap tabsFrom fuel gap (cursor.advance 1)
        else readGap tabsFrom fuel { gap with blanks := gap.blanks ++ [c] } (cursor.advance 1)
      else if isLineEnd c then
        let (meant, next) := cursor.nextLine
        if gap.broken then readGap tabsFrom fuel { gap with further := gap.further ++ meant } next
        else readGap tabsFrom fuel { gap with first := meant, broken := true } next
      else some (gap, cursor)

/-! ### Plain scalars -/

/-- Whether a plain scalar ends before the next character; an error for a colon before a flow indicator. -/
def plainEnds (inFlow : Bool) (cursor : Cursor) : Option Bool :=
  if inFlow && cursor.looksAt 0 ':' && cursor.satisfies 1 (fun c => c ∈ [',', '?', '[', ']', '\x7b', '\x7d']) then none
  else
    some (cursor.endsWordAt 0 || (cursor.looksAt 0 ':' && cursor.endsWordAt 1) ||
      (inFlow && cursor.satisfies 0 fun c => c ∈ [',', '[', ']', '\x7b', '\x7d']))

/-- Reads the words of a line; `read` holds the characters so far in reverse. -/
def plainWord (inFlow : Bool) : Nat → List Char → Cursor → Option (List Char × Cursor)
  | 0, _, _ => none
  | fuel + 1, read, cursor =>
    (plainEnds inFlow cursor).bind fun ends =>
      match ends, cursor.rest with
      | false, c :: _ => plainWord inFlow fuel (c :: read) (cursor.advance 1)
      | _, _ => some (read, cursor)

/-- Reads a plain scalar inside a block at the given indentation. The last component says that the scalar ended after a line end. -/
def readPlain (inFlow : Bool) (indent : Nat) : Nat → List Char → Gap → Cursor → Option (List Char × Cursor × Bool)
  | 0, _, _, _ => none
  | fuel + 1, read, gap, cursor =>
    if cursor.hasDocumentMark || cursor.looksAt 0 '#' then some (read.reverse, cursor, gap.broken)
    else
      (plainWord inFlow cursor.bound [] cursor).bind fun (word, cursor) =>
        let joined := if word.isEmpty then read else word ++ gap.text.reverse ++ read
        let gap := if word.isEmpty then gap else {}
        if cursor.satisfies 0 fun c => isSpaceOrTab c || isLineEnd c then
          (readGap indent cursor.bound gap cursor).bind fun (gap, cursor) =>
            if !inFlow && cursor.column < indent then some (joined.reverse, cursor, gap.broken)
            else readPlain inFlow indent fuel joined gap cursor
        else some (joined.reverse, cursor, gap.broken)

/-! ### Quoted scalars -/

def hexValue? (c : Char) : Option Nat :=
  if '0' ≤ c ∧ c ≤ '9' then some (c.toNat - 48)
  else if 'a' ≤ c ∧ c ≤ 'f' then some (c.toNat - 87)
  else if 'A' ≤ c ∧ c ≤ 'F' then some (c.toNat - 55)
  else none

def hexNumber? (digits : List Char) : Option Nat :=
  digits.foldlM (fun n c => (hexValue? c).map fun d => n * 16 + d) 0

def simpleEscape? : Char → Option Char
  | '0' => some '\x00'
  | 'a' => some '\x07'
  | 'b' => some '\x08'
  | 't' => some '\t'
  | '\t' => some '\t'
  | 'n' => some '\n'
  | 'v' => some '\x0b'
  | 'f' => some '\x0c'
  | 'r' => some '\r'
  | 'e' => some '\x1b'
  | ' ' => some ' '
  | '"' => some '"'
  | '/' => some '/'
  | '\\' => some '\\'
  | 'N' => some '\u0085'
  | '_' => some '\u00a0'
  | 'L' => some '\u2028'
  | 'P' => some '\u2029'
  | _ => none

/-- How many digits follow the letter of a numeric escape. -/
def escapeWidth? : Char → Option Nat
  | 'x' => some 2
  | 'u' => some 4
  | 'U' => some 8
  | _ => none

/-- The character of an escape that starts here, and the cursor after it. -/
def readEscape (cursor : Cursor) : Option (Char × Cursor) :=
  (cursor.peek? 1).bind fun letter =>
    match escapeWidth? letter with
    | some width =>
      let digits := (cursor.rest.drop 2).take width
      if digits.length < width then none
      else
        (hexNumber? digits).bind fun code =>
          if (0xD800 ≤ code ∧ code ≤ 0xDFFF) ∨ 0x10FFFF < code then none
          else some (Char.ofNat code, cursor.advance (2 + width))
    | none => (simpleEscape? letter).map fun meant => (meant, cursor.advance 2)

/-- Reads characters up to a blank, a line end or the closing quote. The last component says that an escaped line end was met. -/
def quotedWord (single : Bool) : Nat → List Char → Cursor → Option (List Char × Cursor × Bool)
  | 0, _, _ => none
  | fuel + 1, read, cursor =>
    if cursor.endsWordAt 0 then some (read, cursor, false)
    else if single then
      if cursor.looksAt 0 '\'' then
        if cursor.looksAt 1 '\'' then quotedWord single fuel ('\'' :: read) (cursor.advance 2)
        else some (read, cursor, false)
      else quotedWord single fuel (cursor.rest.take 1 ++ read) (cursor.advance 1)
    else if cursor.looksAt 0 '"' then some (read, cursor, false)
    else if cursor.looksAt 0 '\\' then
      if cursor.satisfies 1 isLineEnd then some (read, (cursor.advance 1).nextLine.2, true)
      else (readEscape cursor).bind fun (c, cursor) => quotedWord single fuel (c :: read) cursor
    else quotedWord single fuel (cursor.rest.take 1 ++ read) (cursor.advance 1)

def readQuoted (single : Bool) : Nat → List Char → Cursor → Option (List Char × Cursor)
  | 0, _, _ => none
  | fuel + 1, read, cursor =>
    if cursor.hasDocumentMark || cursor.isAtEnd then none
    else
      (quotedWord single cursor.bound read cursor).bind fun (read, cursor, escaped) =>
        if cursor.looksAt 0 (if single then '\'' else '"') then some (read.reverse, cursor.advance 1)
        else
          (readGap 0 cursor.bound { broken := escaped } cursor).bind fun (gap, cursor) =>
            readQuoted single fuel (gap.text.reverse ++ read) cursor

/-! ### Block scalars -/

/-- What becomes of the line ends after the last line. -/
inductive Chomping where
  | strip
  | clip
  | keep
deriving DecidableEq, Repr

def readChomping (cursor : Cursor) : Option Chomping × Cursor :=
  match cursor.peek? 0 with
  | some '+' => (some .keep, cursor.advance 1)
  | some '-' => (some .strip, cursor.advance 1)
  | _ => (none, cursor)

def readIncrement (cursor : Cursor) : Option (Nat × Cursor) :=
  match cursor.peek? 0 with
  | some c =>
    if c = '0' then none
    else if '1' ≤ c ∧ c ≤ '9' then some (c.toNat - 48, cursor.advance 1)
    else some (0, cursor)
  | none => some (0, cursor)

/-- Reads the header of a block scalar after its indicator: the chomping and the indentation asked for, zero if none is. -/
def readHeader (cursor : Cursor) : Option (Chomping × Nat × Cursor) :=
  match readChomping cursor with
  | (some chomping, cursor) => (readIncrement cursor).map fun (increment, cursor) => (chomping, increment, cursor)
  | (none, cursor) =>
    (readIncrement cursor).map fun (increment, cursor) =>
      if increment = 0 then (.clip, 0, cursor)
      else
        let (chomping, cursor) := readChomping cursor
        (chomping.getD .clip, increment, cursor)

/-- Reads indentation and empty lines. An indentation of zero is not known yet; `widest` is the widest one met. -/
def readMargin (indent : Nat) : Nat → Nat → List Char → Cursor → Option (List Char × Nat × Cursor)
  | 0, _, _, _ => none
  | fuel + 1, widest, ends, cursor =>
    let spaces := (cursor.run (· = ' ')).length
    let cursor := cursor.advance (if indent = 0 then spaces else min spaces (indent - cursor.column))
    let widest := max widest cursor.column
    if (indent = 0 || cursor.column < indent) && cursor.looksAt 0 '\t' then none
    else if cursor.satisfies 0 isLineEnd then
      let (meant, next) := cursor.nextLine
      readMargin indent fuel widest (ends ++ meant) next
    else some (ends, widest, cursor)

/-- Reads the lines of a block scalar. `ending` is the end of the line before, `ends` are the empty lines after it, and `wasBlank` says that the line before started with white space. -/
def readLines (literal : Bool) (indent : Nat) :
    Nat → Bool → List Char → List Char → List Char → Cursor → Option (List Char × List Char × List Char × Cursor)
  | 0, _, _, _, _, _ => none
  | fuel + 1, wasBlank, read, ending, ends, cursor =>
    if cursor.column = indent && !cursor.isAtEnd then
      let isBlank := cursor.satisfies 0 isSpaceOrTab
      let joint :=
        if !literal && ending = ['\n'] && !wasBlank && !isBlank then (if ends.isEmpty then [' '] else [])
        else ending
      let line := cursor.run fun c => !isLineEnd c
      let read := line.reverse ++ ends.reverse ++ joint.reverse ++ read
      let (ending, cursor) := (cursor.skipWhile fun c => !isLineEnd c).nextLine
      (readMargin indent cursor.bound 0 [] cursor).bind fun (ends, _, cursor) =>
        readLines literal indent fuel isBlank read ending ends cursor
    else some (read, ending, ends, cursor)

/-- Reads a block scalar after its indicator, inside a block at the given indentation, which is below zero at the top. -/
def readBlock (literal : Bool) (outer : Int) (cursor : Cursor) : Option (List Char × Cursor) :=
  (readHeader cursor).bind fun (chomping, increment, cursor) =>
    cursor.skipLineTail.bind fun cursor =>
      let wanted := if increment = 0 then 0 else if 0 ≤ outer then outer.toNat + increment else increment
      (readMargin wanted cursor.bound 0 [] cursor).bind fun (ends, widest, cursor) =>
        let indent := if wanted = 0 then max (max widest (outer + 1).toNat) 1 else wanted
        (readLines literal indent cursor.bound false [] [] ends cursor).map
          fun (read, ending, ends, cursor) =>
            let tail := match chomping with
              | .strip => []
              | .clip => ending
              | .keep => ending ++ ends
            (read.reverse ++ tail, cursor)

end Scalar

end GuardedPlan.Yaml
