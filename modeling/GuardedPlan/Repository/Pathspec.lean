import GuardedPlan.Path
import GuardedPlan.Wildcard

/-!
# Path specifications

How version control is asked for some of its files: by a path, which stands for the file or directory it names and for all below, or by a pattern. A colon in front starts the words that change the meaning of the rest; they are checked before anything is looked up.
-/

namespace GuardedPlan

inductive PathspecFault where
  | emptyPath
  | nulInPath
  | outside (specification path top : String)
  | unknownWord (word specification : String)
  | unknownSign (sign : Char) (specification : String)
  | unclosed (specification : String)
  | badDepth
  | noAttributes
  | repeatedAttributes
  | badAttribute (name : String)
  | badAttributeValue (c : Char)
  | danglingAttributeValue
  | literalGlob (specification : String)
deriving DecidableEq, Repr

namespace PathspecFault

/-- The fault in words; control characters are not shown. -/
def message (fault : PathspecFault) : String :=
  let text := match fault with
    | emptyPath => "empty string is not a valid pathspec. please use . instead if you meant to match all paths"
    | nulInPath => "nul byte found in provided data"
    | outside specification path top => specification ++ ": '" ++ path ++ "' is outside repository at '" ++ top ++ "'"
    | unknownWord word specification => "Invalid pathspec magic '" ++ word ++ "' in '" ++ specification ++ "'"
    | unknownSign sign specification =>
      "Unimplemented pathspec magic '" ++ sign.toString ++ "' in '" ++ specification ++ "'"
    | unclosed specification => "Missing ')' at the end of pathspec magic in '" ++ specification ++ "'"
    | badDepth => "invalid parameter for pathspec magic 'prefix'"
    | noAttributes => "attr spec must not be empty"
    | repeatedAttributes => "Only one 'attr:' specification is allowed."
    | badAttribute name => "invalid attribute name " ++ name
    | badAttributeValue c => "cannot use '" ++ c.toString ++ "' for value matching"
    | danglingAttributeValue => "Escape character '\\' not allowed as last character in attr value"
    | literalGlob specification => specification ++ ": 'literal' and 'glob' are incompatible"
  text.map fun c => if (c.toNat < 32 && c ≠ '\t' && c ≠ '\n') || c.toNat = 127 then '?' else c

end PathspecFault

/-- A path specification: a path or a pattern, and what changes its meaning. -/
structure Pathspec where
  path : List Char
  fromTop : Bool := false
  isLiteral : Bool := false
  isGlob : Bool := false
  ignoresCase : Bool := false
  excludes : Bool := false
  attributes : Option (List (List Char)) := none
deriving DecidableEq, Repr

namespace Pathspec

/-! ### Reading -/

/-- The front of a text up to a comma or a closing parenthesis that no backslash precedes. -/
def word : List Char → List Char
  | '\\' :: c :: rest => '\\' :: c :: word rest
  | c :: rest => if c = ',' ∨ c = ')' then [] else c :: word rest
  | [] => []

/-- Whether a text is a whole number after optional blanks and a sign; nothing counts as one as well. -/
def isDepth (text : List Char) : Bool :=
  let text := text.dropWhile fun c => c = ' ' || ('\t' ≤ c && c ≤ '\r')
  let digits := match text with
    | '+' :: rest => rest
    | '-' :: rest => rest
    | rest => rest
  if digits.isEmpty then text.isEmpty else digits.all Char.isDigit

def checkAttributeValue : List Char → Except PathspecFault Unit
  | [] => .ok ()
  | ['\\'] => .error .danglingAttributeValue
  | '\\' :: c :: rest => if isFit c then checkAttributeValue rest else .error (.badAttributeValue c)
  | c :: rest => if isFit c then checkAttributeValue rest else .error (.badAttributeValue c)
where
  /-- Whether a character may stand in a value. -/
  isFit (c : Char) : Bool := c.isAlphanum || c = ',' || c = '-' || c = '_'

def checkAttribute (condition : List Char) : Except PathspecFault Unit := do
  let name ←
    match condition with
    | '!' :: name => pure name
    | '-' :: name => pure name
    | condition => do
      checkAttributeValue ((condition.dropWhile (· ≠ '=')).drop 1)
      pure (condition.takeWhile (· ≠ '='))
  if name.isEmpty || name.head? = some '-' || !name.all fun c => c.isAlphanum || c = '-' || c = '.' || c = '_' then
    .error (.badAttribute (String.ofList name))

/-- Adds the meaning of one of the words between parentheses. -/
def addWord (specification : String) (spec : Pathspec) (word : List Char) : Except PathspecFault Pathspec :=
  let after? (lead : String) : Option (List Char) :=
    if lead.toList.isPrefixOf word then some (word.drop lead.length) else none
  match after? "prefix:", after? "attr:" with
  | some depth, _ => if isDepth depth then .ok { spec with fromTop := true } else .error .badDepth
  | none, some conditions =>
    if spec.attributes.isSome then .error .repeatedAttributes
    else if conditions.isEmpty then .error .noAttributes
    else do
      let conditions := (conditions.splitOn ' ').filter (!·.isEmpty)
      for condition in conditions do checkAttribute condition
      return { spec with attributes := some conditions }
  | none, none =>
    match String.ofList word with
    | "" => .ok spec
    | "top" => .ok { spec with fromTop := true }
    | "literal" => .ok { spec with isLiteral := true }
    | "glob" => .ok { spec with isGlob := true }
    | "icase" => .ok { spec with ignoresCase := true }
    | "exclude" => .ok { spec with excludes := true }
    | "attr" => .ok spec
    | name => .error (.unknownWord name specification)

def readWords (specification : String) : Nat → Pathspec → List Char → Except PathspecFault Pathspec
  | 0, _, _ => .error (.unclosed specification)
  | _ + 1, _, [] => .error (.unclosed specification)
  | _ + 1, spec, ')' :: rest => .ok { spec with path := rest }
  | fuel + 1, spec, input => do
    let found := word input
    let spec ← spec.addWord specification found
    match input.drop found.length with
    | ',' :: rest => readWords specification fuel spec rest
    | rest => readWords specification fuel spec rest

def signs : List Char :=
  "!\"#%&',-/:;<=>@_\x60~".toList

/-- Reads the signs after a colon, up to another colon or the first character that is no sign. -/
def readSigns (specification : String) (spec : Pathspec) : List Char → Except PathspecFault Pathspec
  | ':' :: rest => .ok { spec with path := rest }
  | '^' :: rest => readSigns specification { spec with excludes := true } rest
  | '!' :: rest => readSigns specification { spec with excludes := true } rest
  | '/' :: rest => readSigns specification { spec with fromTop := true } rest
  | c :: rest =>
    if signs.contains c then .error (.unknownSign c specification) else .ok { spec with path := c :: rest }
  | [] => .ok { spec with path := [] }

def read (specification : String) : Except PathspecFault Pathspec :=
  if specification = "" then .error .emptyPath
  else if specification.toList.contains '\x00' then .error .nulInPath
  else do
    let spec ← match specification.toList with
      | ':' :: '(' :: rest => readWords specification (rest.length + 1) { path := [] } rest
      | ':' :: rest => readSigns specification { path := [] } rest
      | path => pure { path := path }
    if spec.isLiteral && spec.isGlob then .error (.literalGlob specification) else return spec

/-! ### Matching -/

/-- Resolves dots and empty segments; nothing for a path that climbs out. -/
def resolve : List String → List String → Option (List String)
  | above, [] => some above.reverse
  | above, segment :: rest =>
    if segment = "" ∨ segment = "." then resolve above rest
    else if segment = ".." then
      match above with
      | [] => none
      | _ :: above => resolve above rest
    else resolve (segment :: above) rest

/-- Whether a path can only name a directory: it ends with a slash, a dot or two dots. -/
def namesDirectory (segments : List String) : Bool :=
  match segments.getLast? with
  | some last => last = "" || last = "." || last = ".."
  | none => true

/-- The path from the top that a specification asks for, when it is given in a directory below the top. -/
def target? (spec : Pathspec) (directory : List String) : Option String :=
  if spec.fromTop then some (String.ofList spec.path)
  else if spec.path.head? = some '/' then none
  else
    let segments := Path.segments (String.ofList spec.path)
    (resolve directory.reverse segments).map fun names =>
      "/".intercalate names ++ if namesDirectory segments && !names.isEmpty then "/" else ""

/-- Whether a file is the target of a specification, lies below it or fits its pattern. -/
def fits (spec : Pathspec) (target file : String) : Bool :=
  let lowered (text : String) : String := if spec.ignoresCase then text.map Char.toLower else text
  let wanted := (lowered target).toUTF8.toList
  let bytes := (lowered file).toUTF8.toList
  let isBelow := wanted.isPrefixOf bytes &&
    (wanted.isEmpty || wanted.length = bytes.length || wanted.getLast? = some ByteSet.slashByte ||
      bytes[wanted.length]? = some ByteSet.slashByte)
  let options : Wildcard.Options :=
    { passesSlash := !spec.isGlob, hasDoubleStar := spec.isGlob, keepsOpenBracket := false }
  isBelow ||
    (!spec.isLiteral && wanted.any (fun byte => [0x2A, 0x3F, 0x5B, 0x5C].contains byte) &&
      (Wildcard.pattern options (Wildcard.unescaped wanted)).accepts bytes)

/-- Whether a specification selects a file. No file has attributes, so that only a condition on a missing one holds. -/
def selects (spec : Pathspec) (target file : String) : Bool :=
  let holds := (spec.attributes.getD []).all fun condition => condition.head? = some '!'
  (fits spec target file && holds) != spec.excludes

end Pathspec

end GuardedPlan
