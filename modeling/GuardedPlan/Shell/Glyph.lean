import GuardedPlan.Shell.Session
import GuardedPlan.Wildcard

/-!
# Glyphs

What words expand to before fields are split and patterns are resolved: characters that know whether they were quoted and whether they may separate fields, cuts between fields, and traces of quotes with nothing in them. Fields, patterns and file names are all read off glyphs.
-/

namespace GuardedPlan.Shell

/-- A character that is literal or may belong to a pattern, and that may separate fields or not; a cut between fields; or the trace of a quote, which makes a field even of nothing. -/
inductive Glyph where
  | char (c : Char) (isLiteral splits : Bool)
  | cut
  | quote
deriving DecidableEq, Repr

namespace Glyph

/-- The glyphs of a text; a quoted one leaves a trace. -/
def ofText (chars : List Char) (isQuoted splits : Bool) : List Glyph :=
  if isQuoted then .quote :: chars.map fun c => .char c true false
  else chars.map fun c => .char c false splits

def text (glyphs : List Glyph) : String :=
  String.ofList (glyphs.filterMap fun
    | .char c _ _ => some c
    | _ => none)

/-! ### Fields -/

/-- Fields while they are split: those that are complete in reverse, the one under construction in reverse, and whether white space has just ended one. -/
structure Splitting where
  complete : List (List Glyph) := []
  current : Option (List Glyph) := none
  afterBlank : Bool := false

/-- Completes the field under construction, if there is one. -/
def Splitting.close (splitting : Splitting) (afterBlank : Bool) : Splitting :=
  match splitting.current with
  | some field => ⟨field.reverse :: splitting.complete, none, afterBlank⟩
  | none => splitting

/-- Takes one more glyph: white space between fields counts once, any other separator ends a field each time. -/
def Splitting.add (separators : List Char) (splitting : Splitting) (glyph : Glyph) : Splitting :=
  let extended : Splitting := ⟨splitting.complete, some (glyph :: splitting.current.getD []), false⟩
  match glyph with
  | .cut => splitting.close false
  | .quote => extended
  | .char c _ splits =>
    if !(splits && separators.contains c) then extended
    else if c = ' ' ∨ c = '\t' ∨ c = '\n' then splitting.close true
    else
      match splitting.current, splitting.afterBlank with
      | some _, _ => splitting.close false
      | none, true => { splitting with afterBlank := false }
      | none, false => ⟨[] :: splitting.complete, none, false⟩

def fields (separators : List Char) (glyphs : List Glyph) : List (List Glyph) :=
  (((glyphs.foldl (Splitting.add separators) {}).close false).complete).reverse

/-! ### Patterns -/

/-- The marks of glyphs as a pattern; a backslash that is not literal makes the next character literal. -/
def marks : List Glyph → List Wildcard.Mark
  | .char '\\' false _ :: .char c _ _ :: rest => ⟨c.toNat.toUInt8, true⟩ :: marks rest
  | .char c isLiteral _ :: rest => ⟨c.toNat.toUInt8, isLiteral⟩ :: marks rest
  | _ :: rest => marks rest
  | [] => []

def pattern (glyphs : List Glyph) : BytePattern :=
  Wildcard.pattern {} (marks glyphs)

def bytes (chars : List Char) : List UInt8 :=
  chars.map fun c => c.toNat.toUInt8

def fits (glyphs : List Glyph) (text : String) : Bool :=
  (pattern glyphs).accepts (bytes text.toList)

/-- The value without the part at one end that a pattern fits, the shortest or the longest one. -/
def trimmed (fromEnd isLongest : Bool) (glyphs : List Glyph) (value : String) : String :=
  let chars := value.toList
  let counts := List.range (chars.length + 1)
  let order := if isLongest then counts.reverse else counts
  let fitting := pattern glyphs
  let found := order.find? fun count =>
    fitting.accepts (bytes (if fromEnd then chars.drop (chars.length - count) else chars.take count))
  match found with
  | some count => String.ofList (if fromEnd then chars.take (chars.length - count) else chars.drop count)
  | none => value

/-! ### File names -/

def segments : List Wildcard.Mark → List (List Wildcard.Mark)
  | [] => [[]]
  | mark :: rest =>
    match mark.isSlash, segments rest with
    | true, found => [] :: found
    | false, [] => [[mark]]
    | false, first :: more => (mark :: first) :: more

def markText (marks : List Wildcard.Mark) : String :=
  String.ofList (marks.map fun mark => Char.ofNat mark.byte.toNat)

/-- The paths that segments fit behind a path that has been found. A name that starts with a dot is only found by one that does. -/
def paths (session : Session) : String → List (List Wildcard.Mark) → List String
  | found, [] => if session.pathExists found then [found] else []
  | found, segment :: rest =>
    let below (name : String) : List String :=
      paths session (found ++ name ++ if rest.isEmpty then "" else "/") rest
    if Wildcard.isPlain segment then below (markText segment)
    else
      let wanted := Wildcard.pattern {} segment
      let showsHidden := segment.head?.any fun mark => mark.byte = Wildcard.ascii '.'
      let names := (if showsHidden then [".", ".."] else []) ++ session.namesIn (if found = "" then "." else found)
      (names.filter fun name =>
        (showsHidden || name.toList.head? ≠ some '.') && wanted.accepts (bytes name.toList)).flatMap below

/-- The words that a field stands for: the paths that it fits as a pattern, or itself. -/
def words (session : Session) (field : List Glyph) : List String :=
  let found := marks field
  if session.isSet 'f' || Wildcard.isPlain found then [text field]
  else
    match paths session "" (segments found) with
    | [] => [text field]
    | all => all.mergeSort fun a b => decide (a ≤ b)

end Glyph

end GuardedPlan.Shell
