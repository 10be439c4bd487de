import GuardedPlan.Glob.Token

/-!
# Globs as regular expressions

The regular expression over bytes that a glob stands for, as text, and how deeply it nests. Every group, alternation, sequence of two or more parts, repetition and bracketed class is one level; a single byte, an anchor or a flag is none. An expression deeper than `nestingLimit` is refused.
-/

namespace GuardedPlan.Glob

def nestingLimit : Nat := 250

/-- A byte as it stands in an expression: escaped when it has a meaning there, in hexadecimal when it is not ASCII. -/
def writtenByte (byte : UInt8) : List Char :=
  let c := Char.ofNat byte.toNat
  if 0x80 ≤ byte then '\\' :: 'x' :: Nat.toDigits 16 byte.toNat
  else if c ∈ "\\.+*?()|[]\x7b\x7d^$#&-~".toList then ['\\', c]
  else [c]

def writtenChar (c : Char) : List Char :=
  (String.utf8EncodeChar c).flatMap writtenByte

def writtenRange (range : Char × Char) : List Char :=
  if range.1 = range.2 then writtenChar range.1 else writtenChar range.1 ++ '-' :: writtenChar range.2

mutual

def Token.written : Token → List Char
  | .literal c => writtenChar c
  | .anyChar => "[^/]".toList
  | .star => "[^/]*".toList
  | .recursivePrefix => "(?:/?|.*/)".toList
  | .recursiveSuffix => "/.*".toList
  | .recursiveMiddle => "(?:/|/.*/)".toList
  | .charClass negated ranges =>
    '[' :: (if negated then ['^'] else []) ++ ranges.flatMap writtenRange ++ [']']
  | .branches alternatives =>
    match writtenBranches alternatives with
    | [] => []
    | first :: more => "(?:".toList ++ first ++ more.flatMap ('|' :: ·) ++ [')']

def writtenBranches : List (List Token) → List (List Char)
  | [] => []
  | tokens :: rest =>
    match writtenTokens tokens with
    | [] => writtenBranches rest
    | branch => branch :: writtenBranches rest

def writtenTokens : List Token → List Char
  | [] => []
  | token :: rest => token.written ++ writtenTokens rest

end

def expression (tokens : List Token) : String :=
  let body :=
    match tokens with
    | [.recursivePrefix] => ".*".toList
    | tokens => writtenTokens tokens
  "(?-u)^" ++ String.ofList body ++ "$"

def sequenceDepth : List Nat → Nat
  | [] => 0
  | [only] => only
  | parts => 1 + parts.foldl max 0

/-- How many members a range adds to its class: each byte of its ends is one, save the two that the dash joins. -/
def rangeMembers (range : Char × Char) : Nat :=
  let lower := (String.utf8EncodeChar range.1).length
  if range.1 = range.2 then lower else lower + (String.utf8EncodeChar range.2).length - 1

mutual

/-- The depths of the parts that a token adds to its sequence. -/
def Token.depths : Token → List Nat
  | .literal c => (String.utf8EncodeChar c).map fun _ => 0
  | .anyChar => [1]
  | .star => [2]
  | .recursivePrefix => [4]
  | .recursiveSuffix => [0, 1]
  | .recursiveMiddle => [4]
  | .charClass _ ranges => [if (ranges.map rangeMembers).sum ≤ 1 then 1 else 2]
  | .branches alternatives =>
    match branchDepths alternatives with
    | [] => []
    | branches => [1 + sequenceDepth branches]

def branchDepths : List (List Token) → List Nat
  | [] => []
  | tokens :: rest =>
    match listDepths tokens with
    | [] => branchDepths rest
    | parts => sequenceDepth parts :: branchDepths rest

/-- The depths of the parts that tokens add, one after another. -/
def listDepths : List Token → List Nat
  | [] => []
  | token :: rest => token.depths ++ listDepths rest

end

/-- The depth of a whole glob: its anchors always make it a sequence. -/
def depth (tokens : List Token) : Nat :=
  1 + (listDepths tokens).foldl max 0

end GuardedPlan.Glob
