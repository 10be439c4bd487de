import GuardedPlan.Glob.BytePattern
import GuardedPlan.Glob.Expression
import GuardedPlan.Glob.Method

/-!
# Globs

A glob stands for a pattern over the bytes of a path. A star and a question mark stay inside one segment; a class may hold a slash. A glob that is nothing but a double star matches everything. Globs are read in lists, because a refusal can depend on the place of a glob in its list.
-/

namespace GuardedPlan

namespace Glob

open BytePattern

def slash : BytePattern := byte ByteSet.slashByte

def anything : BytePattern := many ByteSet.all

def literalPattern (c : Char) : BytePattern :=
  sequence ((String.utf8EncodeChar c).map byte)

/-- The byte ranges of a class. A character beyond ASCII counts as its separate bytes, and a range reaches from the last byte of its lower end to the first byte of its upper end. -/
def classRanges (ranges : List (Char × Char)) : List (UInt8 × UInt8) :=
  ranges.flatMap fun (low, high) =>
    let lower := String.utf8EncodeChar low
    let upper := String.utf8EncodeChar high
    if low = high then lower.map fun b => (b, b)
    else
      (lower.dropLast.map fun b => (b, b)) ++ [(lower.getLastD 0, upper.headD 0)] ++
        ((upper.drop 1).map fun b => (b, b))

mutual

/-- Whether a token stands for nothing: a group whose branches are all empty. -/
def Token.vanishes : Token → Bool
  | .branches alternatives => allVanish alternatives
  | _ => false

def allVanish : List (List Token) → Bool
  | [] => true
  | tokens :: rest => listVanishes tokens && allVanish rest

def listVanishes : List Token → Bool
  | [] => true
  | token :: rest => token.vanishes && listVanishes rest

end

mutual

def Token.pattern : Token → BytePattern
  | .literal c => literalPattern c
  | .anyChar => one ByteSet.segment
  | .star => many ByteSet.segment
  | .recursivePrefix => either empty (either slash (both anything slash))
  | .recursiveSuffix => both slash anything
  | .recursiveMiddle => either slash (both slash (both anything slash))
  | .charClass negated ranges => one ⟨negated, classRanges ranges⟩
  | .branches alternatives => choice (branchPatterns alternatives)

def branchPatterns : List (List Token) → List BytePattern
  | [] => []
  | tokens :: rest =>
    if listVanishes tokens then branchPatterns rest else listPattern tokens :: branchPatterns rest

def listPattern : List Token → BytePattern
  | [] => empty
  | token :: rest => both token.pattern (listPattern rest)

end

def wholePattern : List Token → BytePattern
  | [.recursivePrefix] => anything
  | tokens => listPattern tokens

end Glob

/-- A glob with the pattern it stands for and what settles its match. -/
structure Glob where
  source : String
  method : Glob.Method
  pattern : BytePattern
deriving DecidableEq, Repr

/-- Why a list of globs is refused: one cannot be read, one that is bound to an extension nests too deeply, or one of those that are matched by expression alone does, at that place among them. -/
inductive BadGlob where
  | unreadable (source : String) (fault : Glob.Fault)
  | tooDeep (expression : String)
  | memberTooDeep (place : Nat)
deriving DecidableEq, Repr

def BadGlob.message : BadGlob → String
  | unreadable source fault => "error parsing glob '" ++ source ++ "': " ++ fault.message
  | tooDeep expression => "error parsing glob '" ++ expression ++ "': error parsing pattern 0"
  | memberTooDeep place => "error parsing pattern " ++ toString place

namespace Glob

def ofTokens (source : String) (tokens : List Token) : Glob :=
  ⟨source, .ofTokens tokens, wholePattern tokens⟩

/-- The tokens of a glob, or the fault together with the glob. -/
def read (source : String) : Except BadGlob (List Token) :=
  (tokensOf source).mapError (.unreadable source)

/-- What nests too deeply among globs: first those bound to an extension, then those matched by expression alone. -/
def excess? (globs : List (List Token)) : Option BadGlob :=
  let matchedBy (method : Method) := globs.filter fun tokens => Method.ofTokens tokens = method
  let isTooDeep (tokens : List Token) : Bool := nestingLimit < depth tokens
  match (matchedBy .nameAndExpression).find? isTooDeep with
  | some tokens => some (.tooDeep (expression tokens))
  | none => ((matchedBy .expression).findIdx? isTooDeep).map .memberTooDeep

/-- Reads several globs. Those that cannot be read are found before those that nest too deeply. -/
def parseAll (sources : List String) : Except BadGlob (List Glob) := do
  let tokens ← sources.mapM read
  match excess? tokens with
  | some bad => .error bad
  | none => .ok (List.zipWith ofTokens sources tokens)

def accepts (glob : Glob) (path : String) : Bool :=
  (!glob.method.usesName || hasName path) && glob.pattern.accepts path.toUTF8.toList

def anyAccepts (globs : List Glob) (path : String) : Bool :=
  globs.any fun glob => glob.accepts path

end Glob

end GuardedPlan
