/-!
# Writing TOML

A string is written in the first form that needs no escapes: basic, literal, basic over lines, literal over lines. When every form needs some, it is basic, over lines if it has line breaks.
-/

namespace GuardedPlan.Toml

namespace Printer

def longestRun (wanted : Char) (text : List Char) : Nat :=
  (text.splitOnP (· ≠ wanted)).foldl (fun longest run => max longest run.length) 0

/-- Whether a text needs escape codes in every form: it holds a control character other than tab and line feed. -/
def needsCodes (text : List Char) : Bool :=
  text.any fun c => (c.toNat < 32 && c ≠ '\t' && c ≠ '\n') || c.toNat = 127

/-- The four digits of an escape code. -/
def code (c : Char) : List Char :=
  let digits := (Nat.toDigits 16 c.toNat).map Char.toUpper
  '\\' :: 'u' :: List.replicate (4 - digits.length) '0' ++ digits

/-- A character inside a basic string. -/
def escapedChar (overLines : Bool) (c : Char) : List Char :=
  match c with
  | '\x08' => ['\\', 'b']
  | '\t' => ['\\', 't']
  | '\n' => if overLines then ['\n'] else ['\\', 'n']
  | '\x0c' => ['\\', 'f']
  | '\r' => ['\\', 'r']
  | '\\' => ['\\', '\\']
  | c => if c.toNat < 32 ∨ c.toNat = 127 then code c else [c]

/-- The characters inside a basic string, with at most `bare` double quotes in a row left as they are; `run` counts the ones just written. -/
def escapedFrom (overLines : Bool) (bare : Nat) : Nat → List Char → List Char
  | _, [] => []
  | run, '"' :: rest =>
    if run < bare then '"' :: escapedFrom overLines bare (run + 1) rest
    else '\\' :: '"' :: escapedFrom overLines bare 0 rest
  | _, c :: rest => escapedChar overLines c ++ escapedFrom overLines bare 0 rest

/-- A line break after opening quotes, for a text with line breaks. -/
def lead (text : List Char) : List Char :=
  if text.contains '\n' then ['\n'] else []

def basic (text : List Char) : List Char :=
  '"' :: escapedFrom false 0 0 text ++ ['"']

def basicLines (text : List Char) : List Char :=
  ['"', '"', '"'] ++ lead text ++ escapedFrom true 2 0 text ++ ['"', '"', '"']

def literal (text : List Char) : List Char :=
  '\'' :: text ++ ['\'']

def literalLines (text : List Char) : List Char :=
  ['\'', '\'', '\''] ++ lead text ++ text ++ ['\'', '\'', '\'']

def string (text : String) : List Char :=
  let text := text.toList
  let codes := needsCodes text
  let escapes := codes || text.contains '\\'
  let hasBreak := text.contains '\n'
  let doubles := longestRun '"' text
  let singles := longestRun '\'' text
  if !escapes && doubles = 0 && !hasBreak then basic text
  else if !codes && singles = 0 && !hasBreak then literal text
  else if !escapes && doubles ≤ 2 then basicLines text
  else if !codes && singles ≤ 2 then literalLines text
  else if hasBreak then basicLines text
  else basic text

/-- An array of strings: on one line up to one item, else an item a line. -/
def strings (items : List String) : List Char :=
  match items with
  | [] => ['[', ']']
  | [item] => ['['] ++ string item ++ [']']
  | items => ['[', '\n'] ++ items.flatMap (fun item => [' ', ' ', ' ', ' '] ++ string item ++ [',', '\n']) ++ [']']

end Printer

end GuardedPlan.Toml
