import GuardedPlan.Glob.Token

/-!
# What settles a match

Most globs never need their expression: a glob of literals is compared with the whole path, a recursive start and literals with the end of the path or with its last segment, a star and an extension with the extension. Any other glob that ends in a literal extension looks at the path's extension before its expression. It matters in two places. A path that ends in `..` has no last segment to look at, and only a glob that needs its expression can be refused for nesting too deeply.
-/

namespace GuardedPlan.Glob

/-- What settles whether a glob matches. -/
inductive Method where
  | wholePath
  | name
  | nameAndExpression
  | expression
deriving DecidableEq, Repr

def literals? : List Token → Option (List Char)
  | [] => some []
  | .literal c :: rest => (literals? rest).map (c :: ·)
  | _ :: _ => none

/-- Whether tokens, the last one first, end in a literal extension. -/
def endsInExtension : List Token → Bool
  | .literal c :: rest => c ≠ '/' && (c == '.' || endsInExtension rest)
  | _ => false

/-- Whether tokens are a recursive start followed by what the last segment alone settles. -/
def isNameOnly : List Token → Bool
  | .recursivePrefix :: .star :: .literal '.' :: rest =>
    match literals? rest with
    | some extension => !extension.contains '.' && !extension.contains '/'
    | none => false
  | .recursivePrefix :: rest =>
    match literals? rest with
    | some text => !text.isEmpty && !text.contains '/'
    | none => false
  | _ => false

/-- Whether tokens are literals, with a recursive start or a recursive end at most. -/
def isTextOnly (tokens : List Token) : Bool :=
  match tokens with
  | [] => false
  | [.recursivePrefix] => false
  | .recursivePrefix :: rest => (literals? rest).isSome
  | tokens =>
    match tokens.getLast? with
    | some .recursiveSuffix => (literals? tokens.dropLast).isSome
    | _ => (literals? tokens).isSome

def Method.ofTokens (tokens : List Token) : Method :=
  if isNameOnly tokens then .name
  else if isTextOnly tokens then .wholePath
  else if endsInExtension tokens.reverse then .nameAndExpression
  else .expression

/-- Whether the last segment of the path has a say. -/
def Method.usesName : Method → Bool
  | name => true
  | nameAndExpression => true
  | wholePath => false
  | expression => false

/-- Whether the last segment of a path is a name, and not the parent directory. -/
def hasName (path : String) : Bool :=
  path.toList.reverse.takeWhile (· ≠ '/') ≠ ['.', '.']

end GuardedPlan.Glob
