import GuardedPlan.Shell.Arithmetic
import GuardedPlan.Shell.Deeper
import GuardedPlan.Shell.Glyph

/-!
# Expansion

What words stand for in a session: parameters give their values, scripts their output and expressions their numbers. An expansion may change the session, and a mistake in it ends the session; whoever expands words looks at the session afterwards.
-/

namespace GuardedPlan.Shell

namespace Session

/-! ### Parameters -/

/-- What a parameter stands for. -/
inductive Meaning where
  | missing
  | one (value : String)
  | all (values : List String)

/-- The letters of options in the order in which they are shown. -/
def optionOrder : List Char :=
  "pubaCEVvxsnmiIfe".toList

def meaning (session : Session) (name : String) : Meaning :=
  match name with
  | "?" => .one (toString session.status)
  | "$" => .one (toString processId)
  | "!" => if session.processes = 0 then .missing else .one (toString (processId + session.processes))
  | "#" => .one (toString session.arguments.length)
  | "-" => .one (String.ofList (optionOrder.filter session.isSet))
  | "@" => .all session.arguments
  | "*" => .all session.arguments
  | "0" => .one session.name
  | name =>
    match name.toNat? with
    | some 0 => .one session.name
    | some (index + 1) => (session.arguments[index]?).elim .missing .one
    | none => (session.value? name).elim .missing .one

/-- What stands between all arguments where they are one text. -/
def joint (session : Session) : String :=
  match session.value? "IFS" with
  | none => " "
  | some separators => String.ofList (separators.toList.take 1)

/-- Gives a variable a value; one that is fixed ends the session. -/
def assign (session : Session) (name value : String) : Session :=
  let found := session.variableOf name
  if found.isFixed then session.abort (name ++ ": is read only")
  else
    session.setVariable name
      { found with value := some value, isExported := found.isExported || session.isSet 'a' }

/-- The home directory that a tilde with a name stands for, if it is known. -/
def home? (session : Session) (name : String) : Option String :=
  match name with
  | "" => session.value? "HOME"
  | "root" => some "/root"
  | _ => none

/-- The glyphs of unquoted characters that may begin with a tilde, which stands for a home directory. -/
def tilde (session : Session) (ends : List Char) (isAlone : Bool) (chars : List Char) : List Glyph :=
  match chars with
  | '~' :: rest =>
    let name := rest.takeWhile fun c => !ends.contains c
    let after := rest.drop name.length
    match if after.isEmpty && !isAlone then none else session.home? (String.ofList name) with
    | some home => Glyph.ofText home.toList true false ++ Glyph.ofText after false false
    | none => Glyph.ofText chars false false
  | chars => Glyph.ofText chars false false

end Session

namespace Expansion

/-- How a word is expanded: whether it is split into fields, and whether it is the value of a variable, in which a tilde may follow a colon. -/
structure Manner where
  splits : Bool := true
  isValue : Bool := false

/-- The glyphs of characters in a word that stands in for a parameter. -/
def inner (chars : List Char) (isQuoted : Bool) : List Glyph :=
  Glyph.ofText chars isQuoted true

/-- The glyphs of a parameter that stands for a value, or for all arguments. -/
def valueGlyphs (session : Session) (manner : Manner) (name : String) (isQuoted : Bool) : Session.Meaning → List Glyph
  | .missing => Glyph.ofText [] isQuoted true
  | .one value => Glyph.ofText value.toList isQuoted true
  | .all values =>
    let joined (joint : String) : List Glyph := Glyph.ofText (joint.intercalate values).toList isQuoted true
    if !manner.splits then joined session.joint
    else if isQuoted && name = "*" then joined session.joint
    else List.flatten ((values.map fun value => Glyph.ofText value.toList isQuoted true).intersperse [Glyph.cut])

def isMissing (replacesEmpty : Bool) : Session.Meaning → Bool
  | .missing => true
  | .one value => replacesEmpty && value = ""
  | .all values => values.isEmpty || (replacesEmpty && values.all (· = ""))

def joinedValue (session : Session) : Session.Meaning → String
  | .missing => ""
  | .one value => value
  | .all values => session.joint.intercalate values

/-- Complains about a parameter without a value, which ends the session. -/
def unset (session : Session) (name : String) : Session :=
  session.abort (name ++ ": parameter not set")

/-- Whether a session does not take a parameter without a value. -/
def refuses (session : Session) : Session.Meaning → Bool
  | .missing => session.isSet 'u'
  | _ => false

mutual

def piece (deeper : Deeper) (manner : Manner) (isInner : Bool) : Piece → Session → List Glyph × Session
  | .text chars isQuoted, session => (Glyph.ofText chars isQuoted isInner, session)
  | .parameter name use isQuoted, session => parameter deeper manner name isQuoted use session
  | .output script isQuoted, session =>
    match script with
    | .nothing => (Glyph.ofText [] isQuoted true, session)
    | script =>
      let (output, session) := session.capture deeper (deeper.evaluate { isLast := true } script)
      (Glyph.ofText output isQuoted true, session)
  | .arithmetic expression isQuoted, session =>
    let (glyphs, session) := pieces deeper { splits := false } false expression session
    if session.isRunning then
      match Arithmetic.evaluate session (Glyph.text glyphs) with
      | .ok (value, session) => (Glyph.ofText (toString value.toInt).toList isQuoted true, session)
      | .error fault => ([], session.abort (fault.message (Glyph.text glyphs)))
    else ([], session)

/-- The glyphs of a parameter with what becomes of its value. -/
def parameter (deeper : Deeper) (manner : Manner) (name : String) (isQuoted : Bool) :
    Use → Session → List Glyph × Session
  | .malformed, session => ([], session.abort "Bad substitution")
  | .value, session =>
    let found := session.meaning name
    if refuses session found then ([], unset session name)
    else (valueGlyphs session manner name isQuoted found, session)
  | .length, session =>
    let found := session.meaning name
    if refuses session found then ([], unset session name)
    else (Glyph.ofText (toString (joinedValue session found).length).toList isQuoted true, session)
  | .fallback kind replacesEmpty word, session =>
    let found := session.meaning name
    let missing := isMissing replacesEmpty found
    let trace : List Glyph := if isQuoted then [.quote] else []
    match kind with
    | .word =>
      if missing then
        let (glyphs, session) := pieces deeper manner true word session
        (trace ++ glyphs, session)
      else (valueGlyphs session manner name isQuoted found, session)
    | .presence =>
      if missing then (trace, session)
      else
        let (glyphs, session) := pieces deeper manner true word session
        (trace ++ glyphs, session)
    | .assigned =>
      if missing then
        let (glyphs, session) := pieces deeper { splits := false } true word session
        if !session.isRunning then ([], session)
        else if Word.isName name then
          let session := session.assign name (Glyph.text glyphs)
          (valueGlyphs session manner name isQuoted (session.meaning name), session)
        else ([], session.abort (name ++ ": bad variable name"))
      else (valueGlyphs session manner name isQuoted found, session)
    | .complaint =>
      if missing then
        let (glyphs, session) := pieces deeper { splits := false } true word session
        if !session.isRunning then ([], session)
        else
          let text := if word.isEmpty then "parameter not set" ++ (if replacesEmpty then " or null" else "")
            else Glyph.text glyphs
          ([], session.abort (name ++ ": " ++ text))
      else (valueGlyphs session manner name isQuoted found, session)
  | .trim fromEnd isLongest pattern, session =>
    let found := session.meaning name
    if refuses session found then ([], unset session name)
    else
      let (glyphs, session) := pieces deeper { splits := false } false pattern session
      match found with
      | .missing => (Glyph.ofText [] isQuoted true, session)
      | .one value => (Glyph.ofText (Glyph.trimmed fromEnd isLongest glyphs value).toList isQuoted true, session)
      | .all values =>
        let trimmed := values.map (Glyph.trimmed fromEnd isLongest glyphs)
        (valueGlyphs session manner name isQuoted (.all trimmed), session)

/-- The glyphs of pieces one after another; once the session has ended nothing more is expanded. -/
def pieces (deeper : Deeper) (manner : Manner) (isInner : Bool) : List Piece → Session → List Glyph × Session
  | [], session => ([], session)
  | first :: rest, session =>
    if session.isRunning then
      let (glyphs, session) := piece deeper manner isInner first session
      let (more, session) := pieces deeper manner isInner rest session
      (glyphs ++ more, session)
    else ([], session)

end

/-- The glyphs of the text of a value in which a tilde may stand at the front and after each colon. -/
def valueText (session : Session) (isAlone : Bool) (chars : List Char) : List Glyph :=
  let parts := chars.splitOn ':'
  let shown := parts.zipIdx.map fun (part, index) => session.tilde ['/'] (isAlone || index + 1 < parts.length) part
  List.flatten (shown.intersperse [.char ':' false false])

/-- The glyphs of a word, whose first characters may be a tilde. -/
def word (deeper : Deeper) (manner : Manner) (found : Word) (session : Session) : List Glyph × Session :=
  match found with
  | .text chars false :: rest =>
    let front :=
      if manner.isValue then valueText session rest.isEmpty chars else session.tilde ['/'] rest.isEmpty chars
    let (glyphs, session) := pieces deeper manner false rest session
    (front ++ glyphs, session)
  | found => pieces deeper manner false found session

def fields (deeper : Deeper) (found : Word) (session : Session) : List String × Session :=
  let (glyphs, session) := word deeper {} found session
  ((Glyph.fields session.separators glyphs).flatMap (Glyph.words session), session)

def allFields (deeper : Deeper) : List Word → Session → List String × Session
  | [], session => ([], session)
  | first :: rest, session =>
    let (found, session) := fields deeper first session
    let (more, session) := allFields deeper rest session
    (found ++ more, session)

/-- The text that a word stands for where no fields are split. -/
def text (deeper : Deeper) (found : Word) (session : Session) : String × Session :=
  let (glyphs, session) := word deeper { splits := false } found session
  (Glyph.text glyphs, session)

def value (deeper : Deeper) (found : Word) (session : Session) : String × Session :=
  let (glyphs, session) := word deeper { splits := false, isValue := true } found session
  (Glyph.text glyphs, session)

end Expansion

end GuardedPlan.Shell
