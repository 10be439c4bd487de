/-!
# Scripts

What a shell does for a text: simple commands with their assignments and redirections, put together by lists, pipes, conditions, loops, choices and subshells. Words are made of pieces, some of which stand for text that is known only when they are expanded; a piece may hold a whole script.
-/

namespace GuardedPlan.Shell

/-- What a parameter that is missing stands for. -/
inductive Fallback where
  | word
  | assigned
  | complaint
  | presence
deriving DecidableEq, Repr

/-- How a redirection opens a file or takes over a descriptor; what replaces a file does so even where files are kept. -/
inductive Opening where
  | read
  | write
  | replace
  | append
  | readWrite
  | duplicate
deriving DecidableEq, Repr

mutual

/-- A part of a word, quoted or not: characters, a parameter, the output of a script or the value of an expression. -/
inductive Piece where
  | text (chars : List Char) (isQuoted : Bool)
  | parameter (name : String) (use : Use) (isQuoted : Bool)
  | output (script : Script) (isQuoted : Bool)
  | arithmetic (expression : List Piece) (isQuoted : Bool)

/-- What becomes of the value of a parameter. -/
inductive Use where
  | value
  | length
  | fallback (kind : Fallback) (replacesEmpty : Bool) (word : List Piece)
  | trim (fromEnd isLongest : Bool) (pattern : List Piece)
  | malformed

/-- A redirection of a descriptor: to a file, or from a text in the script, which is awaited as long as it has not been read. -/
inductive Redirection where
  | file (descriptor : Nat) (opening : Opening) (target : List Piece)
  | document (descriptor : Nat) (body : List Piece)
  | awaited (descriptor index : Nat)

/-- A script; numbers of lines are kept for what is said about errors. -/
inductive Script where
  | nothing
  | simple (line : Nat) (assignments : List (String × List Piece)) (words : List (List Piece))
      (redirections : List Redirection)
  | redirected (line : Nat) (body : Script) (redirections : List Redirection)
  | sequence (first second : Script)
  | both (first second : Script)
  | either (first second : Script)
  | negated (body : Script)
  | pipe (source target : Script)
  | subshell (body : Script)
  | background (body : Script)
  | conditional (condition body otherwise : Script)
  | loop (wanted : Bool) (condition body : Script)
  | each (line : Nat) (name : String) (words : List (List Piece)) (body : Script)
  | choice (line : Nat) (word : List Piece) (arms : Arms)
  | define (line : Nat) (name : String) (body : Script)

/-- The arms of a choice: patterns with what is done for the first that fits. -/
inductive Arms where
  | none
  | arm (patterns : List (List Piece)) (body : Script) (rest : Arms)

end

abbrev Word := List Piece

instance : Inhabited Script := ⟨.nothing⟩

namespace Word

/-- The characters of a word that is nothing but unquoted characters. -/
def plain? (word : Word) : Option String :=
  match word with
  | [.text chars false] => some (String.ofList chars)
  | _ => none

/-- Whether a character may start the name of a variable. -/
def isNameStart (c : Char) : Bool :=
  c.isAlpha || c = '_'

/-- Whether a character may stand in the name of a variable. -/
def isNameChar (c : Char) : Bool :=
  c.isAlphanum || c = '_'

def isName (text : String) : Bool :=
  match text.toList with
  | c :: rest => isNameStart c && rest.all isNameChar
  | [] => false

/-- Splits a word that assigns a variable into the name and the value. -/
def assignment? (word : Word) : Option (String × Word) :=
  match word with
  | .text chars false :: rest =>
    let name := chars.takeWhile isNameChar
    match chars.dropWhile isNameChar, name with
    | '=' :: value, c :: _ =>
      if isNameStart c then
        some (String.ofList name, if value.isEmpty then rest else .text value false :: rest)
      else none
    | _, _ => none
  | _ => none

end Word

def Redirection.fill (documents : List (Nat × Word)) : Redirection → Redirection
  | .awaited descriptor index => .document descriptor ((documents.lookup index).getD [])
  | redirection => redirection

mutual

def Script.fill (documents : List (Nat × Word)) : Script → Script
  | .nothing => .nothing
  | .simple line assignments words redirections =>
    .simple line assignments words (redirections.map (Redirection.fill documents))
  | .redirected line body redirections =>
    .redirected line (Script.fill documents body) (redirections.map (Redirection.fill documents))
  | .sequence first second => .sequence (Script.fill documents first) (Script.fill documents second)
  | .both first second => .both (Script.fill documents first) (Script.fill documents second)
  | .either first second => .either (Script.fill documents first) (Script.fill documents second)
  | .negated body => .negated (Script.fill documents body)
  | .pipe source target => .pipe (Script.fill documents source) (Script.fill documents target)
  | .subshell body => .subshell (Script.fill documents body)
  | .background body => .background (Script.fill documents body)
  | .conditional condition body otherwise =>
    .conditional (Script.fill documents condition) (Script.fill documents body) (Script.fill documents otherwise)
  | .loop wanted condition body => .loop wanted (Script.fill documents condition) (Script.fill documents body)
  | .each line name words body => .each line name words (Script.fill documents body)
  | .choice line word arms => .choice line word (Arms.fill documents arms)
  | .define line name body => .define line name (Script.fill documents body)

def Arms.fill (documents : List (Nat × Word)) : Arms → Arms
  | .none => .none
  | .arm patterns body rest => .arm patterns (Script.fill documents body) (Arms.fill documents rest)

end

end GuardedPlan.Shell
