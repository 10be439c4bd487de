import GuardedPlan.Json.Basic
import GuardedPlan.Number.Printed

/-!
# JSON text

Two layouts: compact, and indented by two spaces a level. Fields are written in the order they stand in. A string escapes the quote, the backslash and the control characters below the space, and leaves everything else as it is.
-/

namespace GuardedPlan

def Number.printed : Number → List Char
  | .int value => (if value < 0 then ['-'] else []) ++ Nat.toDigits 10 value.natAbs
  | .float value => value.printed

namespace Json

def escapedChar (c : Char) : List Char :=
  if c = '"' then ['\\', '"']
  else if c = '\\' then ['\\', '\\']
  else if c = '\n' then ['\\', 'n']
  else if c = '\t' then ['\\', 't']
  else if c = '\r' then ['\\', 'r']
  else if c.toNat = 8 then ['\\', 'b']
  else if c.toNat = 12 then ['\\', 'f']
  else if c.toNat < 32 then
    ['\\', 'u', '0', '0', Nat.digitChar (c.toNat / 16), Nat.digitChar (c.toNat % 16)]
  else [c]

def stringText (text : String) : List Char :=
  '"' :: text.toList.flatMap escapedChar ++ ['"']

mutual

def compactText : Json → List Char
  | null => "null".toList
  | bool value => (if value then "true" else "false").toList
  | number value => value.printed
  | string text => stringText text
  | array items => '[' :: compactItems items ++ [']']
  | object fields => '\x7b' :: compactFields fields ++ ['\x7d']

def compactItems : List Json → List Char
  | [] => []
  | [item] => compactText item
  | item :: rest => compactText item ++ ',' :: compactItems rest

def compactFields : List (String × Json) → List Char
  | [] => []
  | [(key, value)] => stringText key ++ ':' :: compactText value
  | (key, value) :: rest => stringText key ++ ':' :: compactText value ++ ',' :: compactFields rest

end

def lineAt (level : Nat) : List Char :=
  '\n' :: List.replicate (2 * level) ' '

mutual

/-- The indented text of a value whose closing bracket stands at `level`. -/
def indentedText (level : Nat) : Json → List Char
  | null => "null".toList
  | bool value => (if value then "true" else "false").toList
  | number value => value.printed
  | string text => stringText text
  | array [] => ['[', ']']
  | array items => '[' :: indentedItems (level + 1) items ++ lineAt level ++ [']']
  | object [] => ['\x7b', '\x7d']
  | object fields => '\x7b' :: indentedFields (level + 1) fields ++ lineAt level ++ ['\x7d']

def indentedItems (level : Nat) : List Json → List Char
  | [] => []
  | [item] => lineAt level ++ indentedText level item
  | item :: rest => lineAt level ++ indentedText level item ++ ',' :: indentedItems level rest

def indentedFields (level : Nat) : List (String × Json) → List Char
  | [] => []
  | [(key, value)] => lineAt level ++ stringText key ++ [':', ' '] ++ indentedText level value
  | (key, value) :: rest =>
    lineAt level ++ stringText key ++ [':', ' '] ++ indentedText level value ++ ',' :: indentedFields level rest

end

def compact (value : Json) : String :=
  String.ofList value.compactText

def pretty (value : Json) : String :=
  String.ofList (value.indentedText 0)

end Json

end GuardedPlan
