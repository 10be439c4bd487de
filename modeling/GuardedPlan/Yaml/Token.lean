import GuardedPlan.Yaml.Scalar

/-!
# YAML tokens

The text is cut into indicators, names and scalars, and the indentation of blocks is turned into opening and closing tokens. A mapping key without an indicator is recognized only by the colon after it: until then the place of every token that may be one is remembered, on the same line and within 1024 bytes, and the tokens for the key are inserted there.
-/

namespace GuardedPlan.Yaml

/-- The tag of a node as written: a handle that stands for some text, and a suffix. Both are bytes, each kept as the character of its number, because an escape may write any byte. -/
structure TagName where
  handle : List Char
  suffix : List Char
deriving DecidableEq, Repr

inductive Token where
  | version (major minor : Nat)
  | tagDirective (handle pre : List Char)
  | documentStart
  | documentEnd
  | blockSequenceStart
  | blockMappingStart
  | blockEnd
  | flowSequenceStart
  | flowSequenceEnd
  | flowMappingStart
  | flowMappingEnd
  | blockEntry
  | flowEntry
  | key
  | value
  | alias (name : List Char)
  | anchor (name : List Char)
  | tag (name : TagName)
  | scalar (style : ScalarStyle) (text : List Char)
  | streamEnd
deriving DecidableEq, Repr

namespace Token

/-! ### Names, tags and directives -/

/-- Reads the name of an anchor or an alias after its indicator. -/
def readName (cursor : Cursor) : Option (List Char × Cursor) :=
  let name := cursor.run isNameChar
  let cursor := cursor.skipWhile isNameChar
  if name.isEmpty then none
  else if cursor.endsWordAt 0 || cursor.satisfies 0 (fun c => c ∈ ['?', ':', ',', ']', '\x7d', '%', '@', '`']) then
    some (name, cursor)
  else none

/-- A character that may stand in a tag; commas and brackets only in some places. -/
def isTagChar (wide : Bool) (c : Char) : Bool :=
  isNameChar c || c ∈ [';', '/', '?', ':', '@', '&', '=', '+', '$', '.', '%', '!', '~', '*', '\'', '(', ')'] ||
    (wide && c ∈ [',', '[', ']'])

/-- How many bytes a character takes that starts with a given byte. -/
def encodedWidth? (byte : Nat) : Option Nat :=
  if byte < 0x80 then some 1
  else if 0xC0 ≤ byte ∧ byte < 0xE0 then some 2
  else if 0xE0 ≤ byte ∧ byte < 0xF0 then some 3
  else if 0xF0 ≤ byte ∧ byte < 0xF8 then some 4
  else none

/-- The byte written as a percent sign and two hexadecimal digits at the front. -/
def escapedByte? (input : List Char) : Option Nat :=
  match input with
  | '%' :: high :: low :: _ => Scalar.hexNumber? [high, low]
  | _ => none

/-- Reads the bytes of one escaped character, of which `left` are still to come after the first. -/
def escapedTail : Nat → List Char → Option (List Char)
  | 0, _ => some []
  | left + 1, input =>
    (escapedByte? input).bind fun byte =>
      if 0x80 ≤ byte ∧ byte < 0xC0 then (escapedTail left (input.drop 3)).map (Char.ofNat byte :: ·) else none

/-- Reads the characters of a tag, escaped ones byte by byte. -/
def readTagChars (wide : Bool) : Nat → Cursor → Option (List Char × Cursor)
  | 0, _ => none
  | fuel + 1, cursor =>
    match cursor.rest with
    | c :: _ =>
      if c = '%' then
        (escapedByte? cursor.rest).bind fun byte =>
          (encodedWidth? byte).bind fun width =>
            (escapedTail (width - 1) (cursor.rest.drop 3)).bind fun tail =>
              (readTagChars wide fuel (cursor.advance (3 * width))).map fun (rest, cursor) =>
                (Char.ofNat byte :: tail ++ rest, cursor)
      else if isTagChar wide c then
        (readTagChars wide fuel (cursor.advance 1)).map fun (rest, cursor) => (c :: rest, cursor)
      else some ([], cursor)
    | [] => some ([], cursor)

/-- Reads a handle: an exclamation mark, name characters and perhaps a second exclamation mark. -/
def readHandle (cursor : Cursor) : Option (List Char × Cursor) :=
  if cursor.looksAt 0 '!' then
    let name := (cursor.advance 1).run isNameChar
    let cursor := (cursor.advance 1).skipWhile isNameChar
    if cursor.looksAt 0 '!' then some ('!' :: name ++ ['!'], cursor.advance 1) else some ('!' :: name, cursor)
  else none

/-- Whether a handle is one that a suffix may follow. -/
def isFullHandle (handle : List Char) : Bool :=
  2 ≤ handle.length && handle.getLast? = some '!'

/-- The part of a tag before a null character, which ends it. -/
def beforeNull (text : List Char) : List Char :=
  text.takeWhile (· ≠ '\x00')

def readTag (inFlow : Bool) (cursor : Cursor) : Option (TagName × Cursor) :=
  let found :=
    if cursor.looksAt 1 '<' then
      (readTagChars true cursor.bound (cursor.advance 2)).bind fun (suffix, cursor) =>
        if suffix.isEmpty || !cursor.looksAt 0 '>' then none else some ((⟨[], beforeNull suffix⟩ : TagName), cursor.advance 1)
    else
      (readHandle cursor).bind fun (handle, cursor) =>
        (readTagChars false cursor.bound cursor).bind fun (suffix, cursor) =>
          if isFullHandle handle then
            if suffix.isEmpty then none else some (⟨handle, beforeNull suffix⟩, cursor)
          else
            match beforeNull (handle.drop 1 ++ suffix) with
            | [] => some (⟨[], ['!']⟩, cursor)
            | suffix => some (⟨['!'], suffix⟩, cursor)
  found.bind fun (name, cursor) =>
    if (inFlow && cursor.looksAt 0 ',') || cursor.endsWordAt 0 then some (name, cursor) else none

def readVersionNumber (cursor : Cursor) : Option (Nat × Cursor) :=
  let digits := cursor.run Char.isDigit
  if digits.isEmpty || 9 < digits.length then none
  else some (digits.foldl (fun n c => n * 10 + (c.toNat - 48)) 0, cursor.skipWhile Char.isDigit)

/-- Reads the value of a directive of the given name. -/
def readDirectiveValue (name : List Char) (cursor : Cursor) : Option (Token × Cursor) :=
  if name = "YAML".toList then
    (readVersionNumber cursor).bind fun (major, cursor) =>
      if cursor.looksAt 0 '.' then
        (readVersionNumber (cursor.advance 1)).map fun (minor, cursor) => (version major minor, cursor)
      else none
  else if name = "TAG".toList then
    (readHandle cursor).bind fun (handle, cursor) =>
      if (isFullHandle handle || handle = ['!']) && cursor.satisfies 0 isSpaceOrTab then
        let cursor := cursor.skipWhile isSpaceOrTab
        (readTagChars true cursor.bound cursor).bind fun (pre, cursor) =>
          if pre.isEmpty || !cursor.endsWordAt 0 then none else some (tagDirective handle (beforeNull pre), cursor)
      else none
  else none

def readDirective (cursor : Cursor) : Option (Token × Cursor) :=
  let cursor := cursor.advance 1
  let name := cursor.run isNameChar
  let cursor := cursor.skipWhile isNameChar
  if name.isEmpty || !cursor.endsWordAt 0 then none
  else
    (readDirectiveValue name (cursor.skipWhile isSpaceOrTab)).bind fun (token, cursor) =>
      cursor.skipLineTail.map fun cursor => (token, cursor)

/-! ### Scanning -/

/-- A place where a mapping key may have started: how many tokens stand before it, its position, and whether a colon has to follow. -/
structure PossibleKey where
  place : Nat
  index : Nat
  line : Nat
  column : Nat
  isRequired : Bool

/-- The state of the scan: the tokens so far in reverse with their number, a possible key for every open flow collection and one for the block around them, and the indentations of the open blocks. -/
structure Scan where
  cursor : Cursor
  tokens : List Token := []
  count : Nat := 0
  keys : List (Option PossibleKey) := [none]
  indents : List Int := []
  mayStartKey : Bool := true

namespace Scan

def inFlow (scan : Scan) : Bool :=
  1 < scan.keys.length

/-- The indentation of the innermost open block, below zero at the top. -/
def indent (scan : Scan) : Int :=
  scan.indents.headD (-1)

def push (scan : Scan) (token : Token) : Scan :=
  { scan with tokens := token :: scan.tokens, count := scan.count + 1 }

def insertAt (scan : Scan) (place : Nat) (tokens : List Token) : Scan :=
  let later := scan.count - place
  { scan with
    tokens := scan.tokens.take later ++ tokens ++ scan.tokens.drop later
    count := scan.count + tokens.length }

def moveTo (scan : Scan) (cursor : Cursor) : Scan :=
  { scan with cursor := cursor }

/-- Says whether a key may start at the next token. -/
def allowKey (scan : Scan) (allowed : Bool) : Scan :=
  { scan with mayStartKey := allowed }

/-- Gives up the innermost possible key, which must not be required. -/
def dropKey (scan : Scan) : Option Scan :=
  match scan.keys with
  | some possible :: rest => if possible.isRequired then none else some { scan with keys := none :: rest }
  | _ => some scan

def saveKey (scan : Scan) : Option Scan :=
  if scan.mayStartKey then
    scan.dropKey.map fun scan =>
      let here := scan.cursor
      let possible : PossibleKey :=
        ⟨scan.count, here.index, here.line, here.column, !scan.inFlow && decide (scan.indent = here.column)⟩
      { scan with keys := some possible :: scan.keys.drop 1 }
  else some scan

/-- Gives up the possible keys that are on an earlier line or too far back; none of them may be required. -/
def dropStaleKeys (scan : Scan) : Option Scan :=
  let isStale (possible : PossibleKey) : Bool :=
    possible.line < scan.cursor.line || possible.index + 1024 < scan.cursor.index
  if scan.keys.any (·.any isStale) then
    if scan.keys.any (·.any fun possible => isStale possible && possible.isRequired) then none
    else some { scan with keys := scan.keys.map (·.filter (!isStale ·)) }
  else some scan

/-- Closes the blocks that are indented further than a column. -/
def closeBlocks (scan : Scan) (column : Int) : Scan :=
  if scan.inFlow then scan
  else
    let closed := scan.indents.takeWhile fun indent => column < indent
    { scan with
      tokens := closed.map (fun _ => blockEnd) ++ scan.tokens
      count := scan.count + closed.length
      indents := scan.indents.drop closed.length }

def opensBlock (scan : Scan) (column : Nat) : Bool :=
  !scan.inFlow && decide (scan.indent < column)

/-- Opens a block at a column, unless one is open there. -/
def openBlock (scan : Scan) (column : Nat) (token : Token) : Scan :=
  if scan.opensBlock column then { scan.push token with indents := (column : Int) :: scan.indents } else scan

def skipToToken : Nat → Scan → Scan
  | 0, scan => scan
  | fuel + 1, scan =>
    let cursor := scan.cursor
    let cursor := if cursor.column = 0 ∧ cursor.looksAt 0 '\ufeff' then cursor.advance 1 else cursor
    let tabs := scan.inFlow || !scan.mayStartKey
    let cursor := cursor.skipWhile fun c => c = ' ' || (tabs && c = '\t')
    let cursor := if cursor.looksAt 0 '#' then cursor.skipWhile fun c => !isLineEnd c else cursor
    if cursor.satisfies 0 isLineEnd then
      let scan := scan.moveTo cursor.nextLine.2
      skipToToken fuel (if scan.inFlow then scan else scan.allowKey true)
    else scan.moveTo cursor

def indicator (scan : Scan) (token : Token) : Scan :=
  (scan.moveTo (scan.cursor.advance 1)).push token

def documentMark (scan : Scan) (token : Token) : Option Scan :=
  (scan.closeBlocks (-1)).dropKey.map fun scan =>
    ((scan.allowKey false).moveTo (scan.cursor.advance 3)).push token

def directive (scan : Scan) : Option Scan :=
  (scan.closeBlocks (-1)).dropKey.bind fun scan =>
    (readDirective scan.cursor).map fun (token, cursor) => ((scan.allowKey false).moveTo cursor).push token

def flowStart (scan : Scan) (token : Token) : Option Scan :=
  scan.saveKey.map fun scan => ({ scan with keys := none :: scan.keys }.allowKey true).indicator token

def flowEnd (scan : Scan) (token : Token) : Option Scan :=
  scan.dropKey.map fun scan =>
    ({ scan with keys := if scan.inFlow then scan.keys.drop 1 else scan.keys }.allowKey false).indicator token

def comma (scan : Scan) : Option Scan :=
  scan.dropKey.map fun scan => (scan.allowKey true).indicator flowEntry

def dash (scan : Scan) : Option Scan :=
  if scan.inFlow || scan.mayStartKey then
    (scan.openBlock scan.cursor.column blockSequenceStart).dropKey.map fun scan =>
      (scan.allowKey true).indicator blockEntry
  else none

def questionMark (scan : Scan) : Option Scan :=
  if scan.inFlow || scan.mayStartKey then
    (scan.openBlock scan.cursor.column blockMappingStart).dropKey.map fun scan =>
      (scan.allowKey (!scan.inFlow)).indicator key
  else none

/-- Takes the colon before a value, which makes a key of what was possibly one. -/
def colon (scan : Scan) : Option Scan :=
  match scan.keys with
  | some possible :: rest =>
    let opened := if scan.opensBlock possible.column then [blockMappingStart] else []
    let scan := scan.insertAt possible.place (key :: opened)
    let indents := if opened.isEmpty then scan.indents else (possible.column : Int) :: scan.indents
    some (({ scan with keys := none :: rest, indents := indents }.allowKey false).indicator value)
  | _ =>
    if scan.inFlow || scan.mayStartKey then
      some (((scan.openBlock scan.cursor.column blockMappingStart).allowKey (!scan.inFlow)).indicator value)
    else none

def node (scan : Scan) (read : Cursor → Option (Token × Cursor)) : Option Scan :=
  scan.saveKey.bind fun scan =>
    (read scan.cursor).map fun (token, cursor) => ((scan.allowKey false).moveTo cursor).push token

def block (scan : Scan) (literal : Bool) : Option Scan :=
  scan.dropKey.bind fun scan =>
    (Scalar.readBlock literal scan.indent (scan.cursor.advance 1)).map fun (text, cursor) =>
      ((scan.allowKey true).moveTo cursor).push (scalar .quoted text)

def quoted (scan : Scan) (single : Bool) : Option Scan :=
  scan.node fun cursor =>
    (Scalar.readQuoted single cursor.bound [] (cursor.advance 1)).map fun (text, cursor) =>
      (scalar .quoted text, cursor)

/-- Takes a plain scalar; when it ends after a line end, a key may follow. -/
def plain (scan : Scan) : Option Scan :=
  scan.saveKey.bind fun scan =>
    let inner := (scan.indent + 1).toNat
    (Scalar.readPlain scan.inFlow inner scan.cursor.bound [] {} scan.cursor).map
      fun (text, cursor, broken) => ((scan.allowKey broken).moveTo cursor).push (scalar .plain text)

def finish (scan : Scan) : Option (List Token) :=
  (scan.closeBlocks (-1)).dropKey.map fun scan => (scan.push streamEnd).tokens.reverse

def startsPlain (scan : Scan) (c : Char) : Bool :=
  let cursor := scan.cursor
  !(isSpaceOrTab c || isLineEnd c ||
      c ∈ ['-', '?', ':', ',', '[', ']', '\x7b', '\x7d', '#', '&', '*', '!', '|', '>', '\'', '"', '%', '@', '`']) ||
    (c = '-' && !cursor.satisfies 1 isSpaceOrTab) || (!scan.inFlow && (c = '?' || c = ':') && !cursor.endsWordAt 1)

def token (scan : Scan) (c : Char) : Option Scan :=
  let cursor := scan.cursor
  if cursor.column = 0 ∧ c = '%' then scan.directive
  else if cursor.hasMark '-' then scan.documentMark documentStart
  else if cursor.hasMark '.' then scan.documentMark documentEnd
  else if c = '[' then scan.flowStart flowSequenceStart
  else if c = '\x7b' then scan.flowStart flowMappingStart
  else if c = ']' then scan.flowEnd flowSequenceEnd
  else if c = '\x7d' then scan.flowEnd flowMappingEnd
  else if c = ',' then scan.comma
  else if c = '-' ∧ cursor.endsWordAt 1 then scan.dash
  else if c = '?' ∧ (scan.inFlow ∨ cursor.endsWordAt 1) then scan.questionMark
  else if c = ':' ∧ (scan.inFlow ∨ cursor.endsWordAt 1) then scan.colon
  else if c = '*' then
    scan.node fun cursor => (readName (cursor.advance 1)).map fun (name, cursor) => (.alias name, cursor)
  else if c = '&' then
    scan.node fun cursor => (readName (cursor.advance 1)).map fun (name, cursor) => (anchor name, cursor)
  else if c = '!' then
    scan.node fun cursor => (readTag scan.inFlow cursor).map fun (name, cursor) => (tag name, cursor)
  else if c = '|' ∧ !scan.inFlow then scan.block true
  else if c = '>' ∧ !scan.inFlow then scan.block false
  else if c = '\'' then scan.quoted true
  else if c = '"' then scan.quoted false
  else if scan.startsPlain c then scan.plain
  else none

/-- Takes token after token to the end of the text; every token takes at least one character. -/
def run : Nat → Scan → Option (List Token)
  | 0, _ => none
  | fuel + 1, scan =>
    (skipToToken scan.cursor.bound scan).dropStaleKeys.bind fun scan =>
      let scan := scan.closeBlocks scan.cursor.column
      match scan.cursor.rest with
      | [] => scan.finish
      | c :: _ => (scan.token c).bind (run fuel)

end Scan

/-- The tokens of a text, if it can be cut into tokens. -/
def scan? (text : String) : Option (List Token) :=
  let chars := text.toList
  if chars.all isPrintable then Scan.run (chars.length + 1) { cursor := Cursor.start chars } else none

end Token

end GuardedPlan.Yaml
