/-!
# Repository settings

The settings file of a repository: sections in brackets, and below each the names of settings with their values. A text is read as a whole or not at all. Few settings matter here: one that has to be a truth value or a number and is not makes the repository unusable.
-/

namespace GuardedPlan

/-- The settings of a repository: full names in lower case with their values, of which there may be none. -/
abbrev Settings := List (String × Option String)

namespace Settings

def isSpace (c : Char) : Bool :=
  c = ' ' || ('\t' ≤ c && c ≤ '\r')

def isNameChar (c : Char) : Bool :=
  c.isAlphanum || c = '-'

def unifyBreaks : List Char → List Char
  | '\r' :: '\n' :: rest => '\n' :: unifyBreaks rest
  | c :: rest => c :: unifyBreaks rest
  | [] => []

/-- Reads the quoted part of a section after its opening quote. -/
def quotedPart : List Char → Option (List Char × List Char)
  | '"' :: ']' :: rest => some ([], rest)
  | '"' :: _ => none
  | '\n' :: _ => none
  | '\\' :: '\n' :: _ => none
  | '\\' :: c :: rest => (quotedPart rest).map fun (part, rest) => (c :: part, rest)
  | c :: rest => (quotedPart rest).map fun (part, rest) => (c :: part, rest)
  | [] => none

def section? (input : List Char) : Option (List Char × List Char) :=
  let name := (input.takeWhile fun c => isNameChar c || c = '.').map Char.toLower
  match input.drop name.length with
  | ']' :: rest => if name.isEmpty then none else some (name, rest)
  | c :: rest =>
    if isSpace c && c ≠ '\n' then
      match rest.dropWhile fun c => isSpace c && c ≠ '\n' with
      | '"' :: rest => (quotedPart rest).map fun (part, rest) => (name ++ '.' :: part, rest)
      | _ => none
    else none
  | [] => none

def escaped? (c : Char) : Option Char :=
  match c with
  | 't' => some '\t'
  | 'b' => some '\x08'
  | 'n' => some '\n'
  | '\\' => some '\\'
  | '"' => some '"'
  | _ => none

/-- Reads a value up to the end of its line. `read` holds the characters so far in reverse, `kept` how many of them count when only blanks follow. -/
def value? : Nat → Bool → List Char → Nat → List Char → Option (List Char × List Char)
  | 0, _, _, _, _ => none
  | fuel + 1, isQuoted, read, kept, input =>
    let ended (rest : List Char) : Option (List Char × List Char) :=
      if isQuoted then none else some ((read.reverse.take kept), rest)
    match input with
    | [] => ended []
    | '\n' :: rest => ended rest
    | '\\' :: '\n' :: rest => value? fuel isQuoted read kept rest
    | '\\' :: c :: rest => (escaped? c).bind fun c => value? fuel isQuoted (c :: read) (read.length + 1) rest
    | ['\\'] => none
    | '"' :: rest => value? fuel (!isQuoted) read read.length rest
    | c :: rest =>
      if !isQuoted && (c = ';' || c = '#') then ended ((rest.dropWhile (· ≠ '\n')).drop 1)
      else if !isQuoted && isSpace c then value? fuel isQuoted (if read.isEmpty then [] else c :: read) kept rest
      else value? fuel isQuoted (c :: read) (read.length + 1) rest

def readFrom : Nat → List Char → List Char → Option Settings
  | 0, _, _ => none
  | _ + 1, _, [] => some []
  | fuel + 1, heading, c :: rest =>
    if isSpace c then readFrom fuel heading rest
    else if c = '#' || c = ';' then readFrom fuel heading (rest.dropWhile (· ≠ '\n'))
    else if c = '[' then (section? rest).bind fun (heading, rest) => readFrom fuel heading rest
    else if c.isAlpha then
      let name := ((c :: rest).takeWhile isNameChar).map Char.toLower
      let full := String.ofList (heading ++ '.' :: name)
      match ((c :: rest).drop name.length).dropWhile fun c => c = ' ' || c = '\t' with
      | '=' :: rest =>
        (value? (rest.length + 1) false [] 0 rest).bind fun (found, rest) =>
          (readFrom fuel heading rest).map ((full, some (String.ofList found)) :: ·)
      | '\n' :: rest => (readFrom fuel heading rest).map ((full, none) :: ·)
      | [] => some [(full, none)]
      | _ => none
    else none

def read (text : String) : Option Settings :=
  let chars := match text.toList with
    | '\ufeff' :: rest => rest
    | chars => chars
  readFrom (chars.length + 1) [] (unifyBreaks chars)

/-- The last value of a setting. -/
def get? (settings : Settings) (name : String) : Option (Option String) :=
  settings.reverse.lookup name

/-- The integer that a value says: decimal, or in base eight or sixteen behind a zero, with a unit at the end. -/
def number? (value : Option String) : Option Int :=
  let chars := ((value.getD "").toList.dropWhile isSpace).map Char.toLower
  let unsigned := match chars with
    | '-' :: rest => rest
    | '+' :: rest => rest
    | rest => rest
  let isDigitOf (base : Nat) (c : Char) : Bool :=
    if base = 16 then c.isDigit || ('a' ≤ c && c ≤ 'f') else c.isDigit && c.toNat - '0'.toNat < base
  let (base, digits) := match unsigned with
    | '0' :: 'x' :: rest => (16, rest)
    | '0' :: rest => (8, '0' :: rest)
    | rest => (10, rest)
  let read := digits.takeWhile (isDigitOf base)
  let size : Nat := read.foldl (fun n c =>
    n * base + (if c.isDigit then c.toNat - '0'.toNat else c.toNat - 'a'.toNat + 10)) 0
  let unit? := match digits.drop read.length with
    | [] => some 1
    | ['k'] => some 1024
    | ['m'] => some (1024 * 1024)
    | ['g'] => some (1024 * 1024 * 1024)
    | _ => none
  if read.isEmpty then none
  else unit?.map fun unit => (if chars.head? = some '-' then -1 else 1) * (size * unit : Int)

/-- The truth value that a setting says, if it says one. A setting without a value is true, one with an empty value false. -/
def truth? (value : Option String) : Option Bool :=
  match value.map fun text => String.ofList (text.toList.map Char.toLower) with
  | none => some true
  | some "true" => some true
  | some "yes" => some true
  | some "on" => some true
  | some "false" => some false
  | some "no" => some false
  | some "off" => some false
  | some "" => some false
  | some text => (number? (some text)).map (· ≠ 0)

def truths : List String :=
  ["core.bare", "core.filemode", "core.ignorecase", "core.symlinks", "core.trustctime", "core.quotepath",
    "core.precomposeunicode", "core.protecthfs", "core.protectntfs", "core.ignorestat", "core.preloadindex",
    "core.commitgraph", "core.multipackindex", "core.warnambiguousrefs", "core.sparsecheckout",
    "core.sparsecheckoutcone", "core.fsyncobjectfiles", "user.useconfigonly", "feature.manyfiles"]

def numbers : List String :=
  ["core.repositoryformatversion", "core.compression", "core.loosecompression", "core.bigfilethreshold",
    "core.packedgitlimit", "core.packedgitwindowsize", "core.deltabasecachelimit", "core.maxtreedepth", "index.version",
    "pack.packsizelimit"]

def texts : List String :=
  ["core.excludesfile", "core.attributesfile", "core.hookspath", "core.editor", "core.askpass", "core.notesref",
    "core.whitespace", "user.name", "user.email", "i18n.commitencoding", "mailmap.file", "include.path"]

/-- The words that some settings take besides truth values. -/
def choices : List (String × List String) :=
  [("core.logallrefupdates", ["always"]), ("core.autocrlf", ["input"]), ("core.safecrlf", ["warn"]),
    ("branch.autosetupmerge", ["always", "inherit", "simple"])]

/-- Whether a setting has a value that it cannot have. -/
def isBad (name : String) (value : Option String) : Bool :=
  (truths.contains name && (truth? value).isNone) || (numbers.contains name && (number? value).isNone) ||
    (texts.contains name && value.isNone) || (name.startsWith "advice." && (truth? value).isNone) ||
    (choices.lookup name).any fun words => (truth? value).isNone && !words.contains (value.getD "")

/-- Whether a repository with these settings has files beside it; nothing when it cannot be used at all. -/
def hasWorkTree? (settings : Settings) : Option Bool :=
  let hasExtension := settings.any fun (name, _) => name.startsWith "extensions." && name ≠ "extensions.noop"
  let bare := ((settings.get? "core.bare").bind truth?).getD false
  let elsewhere := (settings.get? "core.worktree").isSome
  if settings.any fun (name, value) => isBad name value then none
  else
    match (settings.get? "core.repositoryformatversion").bind number? with
    | none => some true
    | some format => if 1 < format || (format = 1 && hasExtension) then none else some (!bare && !elsewhere)

end Settings

end GuardedPlan
