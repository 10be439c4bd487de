import GuardedPlan.Json.Numeral

/-!
# Reading JSON

A strict reader: no comments, no trailing commas, no characters below the space inside strings, surrogate escapes only in pairs, and at most 127 levels of arrays and objects. It answers nothing for a text that is not JSON.
-/

namespace GuardedPlan.Json

namespace Reader

def isSpace (c : Char) : Bool :=
  c = ' ' || c = '\n' || c = '\t' || c = '\r'

def skipSpace (input : List Char) : List Char :=
  input.dropWhile isSpace

def hexValue? (c : Char) : Option Nat :=
  if '0' ≤ c ∧ c ≤ '9' then some (c.toNat - 48)
  else if 'a' ≤ c ∧ c ≤ 'f' then some (c.toNat - 87)
  else if 'A' ≤ c ∧ c ≤ 'F' then some (c.toNat - 55)
  else none

/-- The code unit written by four hexadecimal digits. -/
def hexUnit? (a b c d : Char) : Option Nat := do
  let a ← hexValue? a
  let b ← hexValue? b
  let c ← hexValue? c
  let d ← hexValue? d
  return ((a * 16 + b) * 16 + c) * 16 + d

def simpleEscape? (c : Char) : Option Char :=
  match c with
  | '"' => some '"'
  | '\\' => some '\\'
  | '/' => some '/'
  | 'b' => some '\x08'
  | 'f' => some '\x0c'
  | 'n' => some '\n'
  | 'r' => some '\r'
  | 't' => some '\t'
  | _ => none

def isHighSurrogate (unit : Nat) : Bool :=
  0xD800 ≤ unit && unit ≤ 0xDBFF

def isLowSurrogate (unit : Nat) : Bool :=
  0xDC00 ≤ unit && unit ≤ 0xDFFF

/-- Reads the rest of a string after its opening quote; `read` holds the characters so far in reverse. -/
def stringBody (read : List Char) : List Char → Option (String × List Char)
  | '"' :: rest => some (String.ofList read.reverse, rest)
  | '\\' :: 'u' :: a :: b :: c :: d :: '\\' :: 'u' :: e :: f :: g :: h :: rest =>
    match hexUnit? a b c d, hexUnit? e f g h with
    | some first, some second =>
      if isHighSurrogate first then
        if isLowSurrogate second then
          stringBody (Char.ofNat (0x10000 + (first - 0xD800) * 0x400 + (second - 0xDC00)) :: read) rest
        else none
      else if isLowSurrogate first then none
      else stringBody (Char.ofNat first :: read) ('\\' :: 'u' :: e :: f :: g :: h :: rest)
    | _, _ => none
  | '\\' :: 'u' :: a :: b :: c :: d :: rest =>
    match hexUnit? a b c d with
    | some unit =>
      if isHighSurrogate unit || isLowSurrogate unit then none else stringBody (Char.ofNat unit :: read) rest
    | none => none
  | '\\' :: c :: rest =>
    match simpleEscape? c with
    | some meant => stringBody (meant :: read) rest
    | none => none
  | c :: rest => if c.toNat < 32 then none else stringBody (c :: read) rest
  | [] => none

def word? (input : List Char) : Option (Json × List Char) :=
  match input with
  | 'n' :: 'u' :: 'l' :: 'l' :: rest => some (null, rest)
  | 't' :: 'r' :: 'u' :: 'e' :: rest => some (bool true, rest)
  | 'f' :: 'a' :: 'l' :: 's' :: 'e' :: rest => some (bool false, rest)
  | _ => none

mutual

/-- Reads a value, leading white space allowed, inside of which `depth` levels may still open. -/
def value : Nat → Nat → List Char → Option (Json × List Char)
  | 0, _, _ => none
  | fuel + 1, depth, input =>
    match skipSpace input with
    | '[' :: rest =>
      match depth with
      | 0 => none
      | depth + 1 =>
        match skipSpace rest with
        | ']' :: rest => some (array [], rest)
        | rest => items fuel depth [] rest
    | '\x7b' :: rest =>
      match depth with
      | 0 => none
      | depth + 1 =>
        match skipSpace rest with
        | '\x7d' :: rest => some (object [], rest)
        | rest => fields fuel depth [] rest
    | '"' :: rest => (stringBody [] rest).map fun (text, rest) => (string text, rest)
    | c :: rest =>
      if c = '-' ∨ Numeral.isDigit c then
        (Numeral.read (c :: rest)).map fun (n, rest) => (number n, rest)
      else word? (c :: rest)
    | [] => none

/-- Reads the items of an array up to its bracket; `read` holds the earlier ones in reverse. -/
def items : Nat → Nat → List Json → List Char → Option (Json × List Char)
  | 0, _, _, _ => none
  | fuel + 1, depth, read, input =>
    match value fuel depth input with
    | none => none
    | some (item, rest) =>
      match skipSpace rest with
      | ',' :: rest => items fuel depth (item :: read) rest
      | ']' :: rest => some (array (item :: read).reverse, rest)
      | _ => none

/-- Reads the fields of an object up to its brace; `read` holds the earlier ones in ascending order. -/
def fields : Nat → Nat → List (String × Json) → List Char → Option (Json × List Char)
  | 0, _, _, _ => none
  | fuel + 1, depth, read, input =>
    match skipSpace input with
    | '"' :: rest =>
      match stringBody [] rest with
      | none => none
      | some (key, rest) =>
        match skipSpace rest with
        | ':' :: rest =>
          match value fuel depth rest with
          | none => none
          | some (member, rest) =>
            let read := insertEntry key member read
            match skipSpace rest with
            | ',' :: rest => fields fuel depth read rest
            | '\x7d' :: rest => some (object read, rest)
            | _ => none
        | _ => none
    | _ => none

end

end Reader

/-- The levels of arrays and objects that a text may nest. -/
def maxDepth : Nat := 127

/-- The value that a whole text denotes, if it is JSON. Two steps a character are always enough. -/
def parse? (text : String) : Option Json :=
  let input := text.toList
  match Reader.value (2 * input.length + 2) maxDepth input with
  | some (value, rest) => if (Reader.skipSpace rest).isEmpty then some value else none
  | none => none

end GuardedPlan.Json
