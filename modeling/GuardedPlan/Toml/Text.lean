/-!
# Strings of TOML

A string is basic, between double quotes and with escapes, or literal, between single quotes and without. Either may span lines between three quotes; then a line break right after the opening quotes does not count, every other one is kept as it is written, and up to two quotes may stand before the closing ones.
-/

namespace GuardedPlan.Toml

/-- Whether a character may not stand in a document as it is: a control character other than the tab. -/
def isControl (c : Char) : Bool :=
  (c.toNat < 32 && c ≠ '\t') || c.toNat = 127

def isSpace (c : Char) : Bool :=
  c = ' ' || c = '\t'

def skipSpace (input : List Char) : List Char :=
  input.dropWhile isSpace

/-- The rest after a line break, if one stands at the front. -/
def afterBreak? : List Char → Option (List Char)
  | '\n' :: rest => some rest
  | '\r' :: '\n' :: rest => some rest
  | _ => none

namespace Text

def hexValue? (c : Char) : Option Nat :=
  if '0' ≤ c ∧ c ≤ '9' then some (c.toNat - 48)
  else if 'a' ≤ c ∧ c ≤ 'f' then some (c.toNat - 87)
  else if 'A' ≤ c ∧ c ≤ 'F' then some (c.toNat - 55)
  else none

def hexNumber? (digits : List Char) : Option Nat :=
  digits.foldlM (fun n c => (hexValue? c).map (n * 16 + ·)) 0

/-- The character written by a number of hexadecimal digits at the front of the input. -/
def coded (count : Nat) (input : List Char) : Option (Char × List Char) :=
  let digits := input.take count
  if digits.length = count then
    (hexNumber? digits).bind fun n => if n.isValidChar then some (Char.ofNat n, input.drop count) else none
  else none

/-- The character behind an escape whose backslash was read. -/
def escaped : List Char → Option (Char × List Char)
  | 'b' :: rest => some ('\x08', rest)
  | 't' :: rest => some ('\t', rest)
  | 'n' :: rest => some ('\n', rest)
  | 'f' :: rest => some ('\x0c', rest)
  | 'r' :: rest => some ('\r', rest)
  | 'e' :: rest => some ('\x1b', rest)
  | '"' :: rest => some ('"', rest)
  | '\\' :: rest => some ('\\', rest)
  | 'x' :: rest => coded 2 rest
  | 'u' :: rest => coded 4 rest
  | 'U' :: rest => coded 8 rest
  | _ => none

/-- The rest after a break that a backslash hides, with all white space and breaks that follow; nothing when no break follows the backslash in its line. -/
def afterHiddenBreak? (input : List Char) : Option (List Char) :=
  (afterBreak? (skipSpace input)).map fun rest =>
    rest.dropWhile fun c => isSpace c || c = '\n' || c = '\r'

/-- Reads a basic string of one line up to its closing quote; `read` holds the characters so far in reverse. -/
def basic : Nat → List Char → List Char → Option (List Char × List Char)
  | 0, _, _ => none
  | _ + 1, read, '"' :: rest => some (read.reverse, rest)
  | fuel + 1, read, '\\' :: rest => (escaped rest).bind fun (c, rest) => basic fuel (c :: read) rest
  | fuel + 1, read, c :: rest => if isControl c then none else basic fuel (c :: read) rest
  | _ + 1, _, [] => none

/-- Reads a literal string of one line up to its closing quote. -/
def literal (input : List Char) : Option (List Char × List Char) :=
  let body := input.takeWhile (· ≠ '\'')
  match input.dropWhile (· ≠ '\'') with
  | _ :: rest => if body.any isControl then none else some (body, rest)
  | [] => none

/-- Reads a string of several lines up to its closing quotes. -/
def multiline (quote : Char) (escapes : Bool) : Nat → List Char → List Char → Option (List Char × List Char)
  | 0, _, _ => none
  | _ + 1, _, [] => none
  | fuel + 1, read, c :: rest =>
    if c = quote then
      let quotes := 1 + (rest.takeWhile (· = quote)).length
      let rest := rest.dropWhile (· = quote)
      if quotes < 3 then multiline quote escapes fuel (List.replicate quotes quote ++ read) rest
      else if quotes ≤ 5 then some ((List.replicate (quotes - 3) quote ++ read).reverse, rest)
      else none
    else if c = '\\' && escapes then
      match afterHiddenBreak? rest with
      | some rest => multiline quote escapes fuel read rest
      | none => (escaped rest).bind fun (c, rest) => multiline quote escapes fuel (c :: read) rest
    else
      match c, rest with
      | '\r', '\n' :: rest => multiline quote escapes fuel ('\n' :: '\r' :: read) rest
      | c, rest => if c ≠ '\n' && isControl c then none else multiline quote escapes fuel (c :: read) rest

def dropBreak (input : List Char) : List Char :=
  (afterBreak? input).getD input

/-- Reads a string of one line, if one stands at the front. -/
def oneLine : List Char → Option (List Char × List Char)
  | '"' :: rest => basic (rest.length + 1) [] rest
  | '\'' :: rest => literal rest
  | _ => none

def read : List Char → Option (List Char × List Char)
  | '"' :: '"' :: '"' :: rest => multiline '"' true (rest.length + 1) [] (dropBreak rest)
  | '\'' :: '\'' :: '\'' :: rest => multiline '\'' false (rest.length + 1) [] (dropBreak rest)
  | input => oneLine input

end Text

end GuardedPlan.Toml
