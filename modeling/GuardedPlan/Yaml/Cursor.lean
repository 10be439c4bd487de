/-!
# Positions in a YAML text

A cursor is the rest of the text with the place it starts at. Lines end with a line feed, a carriage return, both, or one of the Unicode characters for a next line, a line separator and a paragraph separator; the last two stay what they are when a line end becomes part of a scalar, all others become a line feed.
-/

namespace GuardedPlan.Yaml

def isPrintable (c : Char) : Bool :=
  let n := c.toNat
  n = 0x09 || n = 0x0A || n = 0x0D || (0x20 ≤ n && n ≤ 0x7E) || n = 0x85 || (0xA0 ≤ n && n ≤ 0xD7FF) ||
    (0xE000 ≤ n && n ≤ 0xFFFD) || 0x10000 ≤ n

def isLineEnd (c : Char) : Bool :=
  c = '\n' || c = '\r' || c.toNat = 0x85 || c.toNat = 0x2028 || c.toNat = 0x2029

def isSpaceOrTab (c : Char) : Bool :=
  c = ' ' || c = '\t'

/-- A character that may stand in the names of anchors, directives and tag handles. -/
def isNameChar (c : Char) : Bool :=
  ('0' ≤ c && c ≤ '9') || ('A' ≤ c && c ≤ 'Z') || ('a' ≤ c && c ≤ 'z') || c = '_' || c = '-'

/-- The rest of a text and the place where it starts: how many bytes stand before it, its line and the characters before it on that line. Every loop over the rest ends within `bound` rounds, one more than the characters of the whole text. -/
structure Cursor where
  rest : List Char
  bound : Nat
  index : Nat
  line : Nat
  column : Nat

namespace Cursor

def start (text : List Char) : Cursor :=
  ⟨text, text.length + 1, 0, 0, 0⟩

/-- The next character but `n`. -/
def peek? (cursor : Cursor) (n : Nat) : Option Char :=
  cursor.rest[n]?

/-- Whether the next character but `n` is a given one. -/
def looksAt (cursor : Cursor) (n : Nat) (c : Char) : Bool :=
  cursor.peek? n = some c

/-- Whether the next character but `n` satisfies `p`; the end of the text does not. -/
def satisfies (cursor : Cursor) (n : Nat) (p : Char → Bool) : Bool :=
  (cursor.peek? n).any p

def isAtEnd (cursor : Cursor) : Bool :=
  cursor.rest.isEmpty

/-- Whether the next character but `n` ends a line, or the text is over there. -/
def endsLineAt (cursor : Cursor) (n : Nat) : Bool :=
  (cursor.peek? n).all isLineEnd

/-- Whether the next character but `n` is a space, a tab or an end. -/
def endsWordAt (cursor : Cursor) (n : Nat) : Bool :=
  (cursor.peek? n).all fun c => isSpaceOrTab c || isLineEnd c

/-- The cursor after `n` characters of the same line. -/
def advance (cursor : Cursor) : Nat → Cursor
  | 0 => cursor
  | n + 1 =>
    match cursor.rest with
    | [] => cursor
    | c :: rest =>
      advance { cursor with rest, index := cursor.index + c.utf8Size, column := cursor.column + 1 } n

/-- The cursor after the longest run of characters of a line that satisfy `p`. -/
def skipWhile (cursor : Cursor) (p : Char → Bool) : Cursor :=
  cursor.advance (cursor.rest.takeWhile p).length

/-- The longest run of characters that satisfy `p`. -/
def run (cursor : Cursor) (p : Char → Bool) : List Char :=
  cursor.rest.takeWhile p

/-- The cursor after a line end, if one stands there, and what the line end means inside a scalar. -/
def nextLine (cursor : Cursor) : List Char × Cursor :=
  let after (bytes : Nat) (rest : List Char) : Cursor :=
    { cursor with rest, index := cursor.index + bytes, line := cursor.line + 1, column := 0 }
  match cursor.rest with
  | '\r' :: '\n' :: rest => (['\n'], after 2 rest)
  | c :: rest =>
    if c.toNat = 0x2028 ∨ c.toNat = 0x2029 then ([c], after c.utf8Size rest)
    else if isLineEnd c then (['\n'], after c.utf8Size rest)
    else ([], cursor)
  | [] => ([], cursor)

/-- The cursor at the end of the line, when only spaces, tabs and a comment are left of it. -/
def skipLineTail (cursor : Cursor) : Option Cursor :=
  let cursor := cursor.skipWhile isSpaceOrTab
  let cursor := if cursor.looksAt 0 '#' then cursor.skipWhile fun c => !isLineEnd c else cursor
  if cursor.endsLineAt 0 then some cursor.nextLine.2 else none

/-- Whether a mark of three characters stands at the start of a line, followed by an end or a blank. -/
def hasMark (cursor : Cursor) (c : Char) : Bool :=
  cursor.column = 0 && cursor.looksAt 0 c && cursor.looksAt 1 c && cursor.looksAt 2 c && cursor.endsWordAt 3

def hasDocumentMark (cursor : Cursor) : Bool :=
  cursor.hasMark '-' || cursor.hasMark '.'

end Cursor

end GuardedPlan.Yaml
