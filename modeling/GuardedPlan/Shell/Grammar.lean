import GuardedPlan.Shell.Token

/-!
# Reading scripts

Tokens make up commands, commands pipelines, pipelines lists. A text is read line by line, so that the lines before a mistake still count; a line goes on over line breaks as long as something in it is open.
-/

namespace GuardedPlan.Shell

namespace Script

/-- How far a list of commands goes: to the end of the line, or over lines with at least one command or with none. -/
inductive Extent where
  | line
  | some
  | any
deriving DecidableEq, Repr

/-- The names of the commands that no function may have. -/
def specialNames : List String :=
  [".", ":", "break", "continue", "eval", "exec", "exit", "export", "readonly", "return", "set", "shift", "times", "trap",
    "unset"]

/-- Whether a list of commands ends in front of a token. -/
def endsList : Token → Bool
  | .ending => true
  | .operator text => [")", ";;"].contains text
  | .reserved text => ["do", "done", "elif", "else", "esac", "fi", "then", "\x7d"].contains text
  | _ => false

def isOperator (text : String) : Token → Bool
  | .operator found => found = text
  | _ => false

def isReserved (text : String) : Token → Bool
  | .reserved found => found = text
  | _ => false

/-- The mistake of a token that does not belong where it stands. -/
def reject {α : Type} (source : Source) (found : Token) (wanted : Option Token) : Except Mistake α :=
  .error (source.mistake (.unexpected found (wanted.map Token.name)))

/-- Reads a token that has to be a given one. -/
def demand (nested : Nested) (place : Token.Place) (wanted : Token) (holds : Token → Bool) : Reader Unit := fun source => do
  let (token, source) ← Token.next nested place source
  if holds token then return ((), source) else reject source token (some wanted)

def demandReserved (nested : Nested) (text : String) : Reader Unit :=
  demand nested {} (.reserved text) (isReserved text)

/-- The characters of a word that ends a text in the script; what would be expanded stands for itself. -/
def delimiter (word : Word) : List Char :=
  word.flatMap fun piece =>
    match piece with
    | .text chars _ => chars
    | .parameter name _ _ => '$' :: name.toList
    | _ => []

def isQuoted (word : Word) : Bool :=
  word.any fun piece =>
    match piece with
    | .text _ isQuoted => isQuoted
    | _ => false

def target (nested : Nested) (descriptor : Nat) (operator : String) : Reader Redirection := fun source => do
  let (token, source) ← Token.next nested {} source
  match token with
  | .word found =>
    let file (opening : Opening) : Except Mistake (Redirection × Source) :=
      .ok (.file descriptor opening found, source)
    let document (dropsTabs : Bool) : Except Mistake (Redirection × Source) :=
      let awaited : Awaited := ⟨source.count, delimiter found, isQuoted found, dropsTabs⟩
      .ok (.awaited descriptor source.count,
        { source with count := source.count + 1, awaited := source.awaited ++ [awaited] })
    match operator with
    | "<" => file .read
    | ">|" => file .replace
    | ">>" => file .append
    | "<>" => file .readWrite
    | ">&" => file .duplicate
    | "<&" => file .duplicate
    | "<<" => document false
    | "<<-" => document true
    | _ => file .write
  | token => reject source token none

def redirections (nested : Nested) (place : Token.Place) : Nat → Reader (List Redirection)
  | 0, source => .ok ([], source)
  | fuel + 1, source => do
    let (token, source) ← Token.next nested place source
    match token with
    | .redirect descriptor operator => do
      let (first, source) ← target nested descriptor operator source
      let (more, source) ← redirections nested place fuel source
      return (first :: more, source)
    | token => return ([], Token.putBack token source)

def wordsFrom (nested : Nested) : Nat → Reader (List Word × Token)
  | 0, source => .ok (([], .ending), source)
  | fuel + 1, source => do
    let (token, source) ← Token.next nested {} source
    match token with
    | .word found => do
      let ((more, token), source) ← wordsFrom nested fuel source
      return ((found :: more, token), source)
    | token => return (([], token), source)

/-- Reads the patterns of an arm from its first token on. -/
def patterns (nested : Nested) : Nat → Token → Reader (List Word)
  | 0, token, source => reject source token none
  | fuel + 1, token, source => do
    let first : Word := match token with
      | .word found => found
      | .reserved text => [.text text.toList false]
      | _ => []
    let (token, source) ← Token.next nested {} source
    match token with
    | .operator "|" => do
      let (token, source) ← Token.next nested {} source
      let (more, source) ← patterns nested fuel token source
      return (first :: more, source)
    | .operator ")" => return ([first], source)
    | token => reject source token (some (.operator ")"))

/-- The parts of a simple command that were read so far. -/
structure Parts where
  assignments : List (String × Word) := []
  words : List Word := []
  redirections : List Redirection := []

/-- Reads the parts of a simple command; assignments stand in front of all other words. A parenthesis after a single word makes it the name of a function, which the answer then holds. -/
def parts (nested : Nested) : Nat → Parts → Reader (Parts ⊕ Word)
  | 0, read, source => .ok (.inl read, source)
  | fuel + 1, read, source => do
    let (token, source) ← Token.next nested {} source
    match token with
    | .word found =>
      match read.words, Word.assignment? found with
      | [], some assignment => parts nested fuel { read with assignments := read.assignments ++ [assignment] } source
      | words, _ => parts nested fuel { read with words := words ++ [found] } source
    | .redirect descriptor operator => do
      let (redirection, source) ← target nested descriptor operator source
      parts nested fuel { read with redirections := read.redirections ++ [redirection] } source
    | .operator "(" =>
      match read.assignments, read.words, read.redirections with
      | [], [name], [] => do
        let ((), source) ← demand nested {} (.operator ")") (isOperator ")") source
        return (.inr name, source)
      | _, _, _ => return (.inl read, Token.putBack token source)
    | token => return (.inl read, Token.putBack token source)

def withRedirections (line : Nat) (body : Script) : List Redirection → Script
  | [] => body
  | found => redirected line body found

def allArguments : Word :=
  [.parameter "@" .value true]

mutual

/-- Reads the script of a substitution up to its closing parenthesis. -/
def substitution : Nat → Reader Script
  | 0, source => reject source .ending none
  | fuel + 1, source => do
    let nested : Nested := ⟨substitution fuel, wholeText fuel⟩
    let (body, source) ← list fuel .any none source
    let ((), source) ← demand nested {} (.operator ")") (isOperator ")") source
    let source ← Token.documents nested source
    return ((body.getD nothing).fill source.documents, source)

/-- Reads a text of its own; what follows a list in it counts for nothing. -/
def wholeText : Nat → Nat → List Char → Except Mistake Script
  | 0, line, _ => .error ⟨line, .unterminated⟩
  | fuel + 1, line, text => do
    let (body, source) ← list fuel .any none { rest := text, line := line }
    return (body.getD nothing).fill source.documents

/-- Reads a list of commands after those that were read before. Nothing is answered at the end of a text with no more commands in it. -/
def list : Nat → Extent → Option Script → Reader (Option Script)
  | 0, _, _, source => reject source .ending none
  | fuel + 1, extent, before, source => do
    let nested : Nested := ⟨substitution fuel, wholeText fuel⟩
    let (token, source) ← Token.next nested { skipsBreaks := extent ≠ .line, reserves := true } source
    let mayEnd := match extent with
      | .line => false
      | .some => before.isSome
      | .any => true
    match token with
    | .newline => do
      let source ← Token.documents nested source
      return (Option.some (before.getD nothing), source)
    | .ending => do
      let source ← Token.documents nested source
      return (before, Token.putBack .ending source)
    | token =>
      if mayEnd && endsList token then return (before, Token.putBack token source)
      else
        let (first, source) ← conditions fuel none (Token.putBack token source)
        let (token, source) ← Token.next nested {} source
        let isBackground := isOperator "&" token
        let first := if isBackground then background first else first
        let read := match before with
          | Option.some before => sequence before first
          | none => first
        match token with
        | .newline => list fuel extent (Option.some read) (Token.putBack token source)
        | .ending => do
          let source ← Token.documents nested source
          return (Option.some read, Token.putBack .ending source)
        | token =>
          if isBackground || isOperator ";" token then list fuel extent (Option.some read) source
          else if extent = .line then reject source token none
          else return (Option.some read, Token.putBack token source)

/-- Reads pipelines joined by conditions: one to begin with, or what follows an operator and a script before it. -/
def conditions : Nat → Option (Bool × Script) → Reader Script
  | 0, _, source => reject source .ending none
  | fuel + 1, before, source => do
    let nested : Nested := ⟨substitution fuel, wholeText fuel⟩
    let (found, source) ← pipeline fuel source
    let read := match before with
      | Option.some (true, first) => both first found
      | Option.some (false, first) => either first found
      | none => found
    let (token, source) ← Token.next nested {} source
    let goOn (isBoth : Bool) : Except Mistake (Script × Source) := do
      let (token, source) ← Token.next nested { skipsBreaks := true, reserves := true } source
      conditions fuel (Option.some (isBoth, read)) (Token.putBack token source)
    if isOperator "&&" token then goOn true
    else if isOperator "||" token then goOn false
    else return (read, Token.putBack token source)

def pipeline : Nat → Reader Script
  | 0, source => reject source .ending none
  | fuel + 1, source => do
    let nested : Nested := ⟨substitution fuel, wholeText fuel⟩
    let (token, source) ← Token.next nested {} source
    if isReserved "!" token then
      let (token, source) ← Token.next nested { reserves := true } source
      let (body, source) ← pipes fuel (Token.putBack token source)
      return (negated body, source)
    else pipes fuel (Token.putBack token source)

def pipes : Nat → Reader Script
  | 0, source => reject source .ending none
  | fuel + 1, source => do
    let nested : Nested := ⟨substitution fuel, wholeText fuel⟩
    let (first, source) ← command fuel source
    let (token, source) ← Token.next nested {} source
    if isOperator "|" token then
      let (token, source) ← Token.next nested { skipsBreaks := true, reserves := true } source
      let (more, source) ← pipes fuel (Token.putBack token source)
      return (pipe first more, source)
    else return (first, Token.putBack token source)

def command : Nat → Reader Script
  | 0, source => reject source .ending none
  | fuel + 1, source => do
    let nested : Nested := ⟨substitution fuel, wholeText fuel⟩
    let (token, source) ← Token.next nested {} source
    let start := source.line
    let redirectable (body : Script) (source : Source) : Except Mistake (Script × Source) := do
      let (found, source) ← redirections nested { reserves := true } (source.rest.length + 1) source
      return (withRedirections start body found, source)
    match token with
    | .word _ => simpleCommand fuel (Token.putBack token source)
    | .redirect _ _ => simpleCommand fuel (Token.putBack token source)
    | .operator "(" => do
      let (body, source) ← list fuel .some none source
      let ((), source) ← demand nested {} (.operator ")") (isOperator ")") source
      let (found, source) ← redirections nested { reserves := true } (source.rest.length + 1) source
      return (subshell (withRedirections start (body.getD nothing) found), source)
    | .reserved "\x7b" => do
      let (body, source) ← list fuel .some none source
      let ((), source) ← demandReserved nested "\x7d" source
      redirectable (body.getD nothing) source
    | .reserved "if" => do
      let (body, source) ← branches fuel source
      redirectable body source
    | .reserved "while" => do
      let (condition, source) ← list fuel .some none source
      let (body, source) ← rounds fuel source
      redirectable (loop true (condition.getD nothing) body) source
    | .reserved "until" => do
      let (condition, source) ← list fuel .some none source
      let (body, source) ← rounds fuel source
      redirectable (loop false (condition.getD nothing) body) source
    | .reserved "for" => do
      let ((name, words), source) ← loopHead fuel source
      let (body, source) ← rounds fuel source
      redirectable (each start name words body) source
    | .reserved "case" => do
      let (token, source) ← Token.next nested {} source
      match token with
      | .word subject => do
        let ((), source) ←
          demand nested { skipsBreaks := true, reserves := true } (.reserved "in") (isReserved "in") source
        let (token, source) ← Token.next nested { skipsBreaks := true, reserves := true } source
        let (found, source) ← arms fuel token source
        redirectable (choice start subject found) source
      | token => reject source token (Option.some (.word []))
    | token => reject source token none

/-- Reads a simple command or the definition of a function. -/
def simpleCommand : Nat → Reader Script
  | 0, source => reject source .ending none
  | fuel + 1, source => do
    let nested : Nested := ⟨substitution fuel, wholeText fuel⟩
    let start := source.line
    let (read, source) ← parts nested (source.rest.length + 2) {} source
    match read with
    | .inl read => return (simple start read.assignments read.words read.redirections, source)
    | .inr name =>
      match (Word.plain? name).filter fun name => Word.isName name && !specialNames.contains name with
      | none => .error (source.mistake .functionName)
      | Option.some name =>
        let defined := source.line
        let (token, source) ← Token.next nested { skipsBreaks := true, reserves := true } source
        let (body, source) ← command fuel (Token.putBack token source)
        return (define defined name body, source)

/-- Reads a condition and what follows it, up to the end of the construct. -/
def branches : Nat → Reader Script
  | 0, source => reject source .ending none
  | fuel + 1, source => do
    let nested : Nested := ⟨substitution fuel, wholeText fuel⟩
    let (condition, source) ← list fuel .some none source
    let ((), source) ← demandReserved nested "then" source
    let (body, source) ← list fuel .some none source
    let condition := condition.getD nothing
    let body := body.getD nothing
    let (token, source) ← Token.next nested {} source
    match token with
    | .reserved "elif" => do
      let (otherwise, source) ← branches fuel source
      return (conditional condition body otherwise, source)
    | .reserved "else" => do
      let (otherwise, source) ← list fuel .some none source
      let ((), source) ← demandReserved nested "fi" source
      return (conditional condition body (otherwise.getD nothing), source)
    | .reserved "fi" => return (conditional condition body nothing, source)
    | token => reject source token (Option.some (.reserved "fi"))

def rounds : Nat → Reader Script
  | 0, source => reject source .ending none
  | fuel + 1, source => do
    let nested : Nested := ⟨substitution fuel, wholeText fuel⟩
    let ((), source) ← demandReserved nested "do" source
    let (body, source) ← list fuel .some none source
    let ((), source) ← demandReserved nested "done" source
    return (body.getD nothing, source)

/-- Reads the variable of a loop and the words that it goes through, all arguments unless they are named. -/
def loopHead : Nat → Reader (String × List Word)
  | 0, source => reject source .ending none
  | fuel + 1, source => do
    let nested : Nested := ⟨substitution fuel, wholeText fuel⟩
    let (token, source) ← Token.next nested {} source
    let name? := match token with
      | .word found => (Word.plain? found).filter Word.isName
      | _ => none
    match name? with
    | none => .error (source.mistake .loopVariable)
    | Option.some name =>
      let (token, source) ← Token.next nested { skipsBreaks := true, reserves := true } source
      let (words, source) ←
        match token with
        | .reserved "in" => do
          let ((words, token), source) ← wordsFrom nested (source.rest.length + 2) source
          match token with
          | .newline => pure (words, Token.putBack token source)
          | .operator ";" => pure (words, source)
          | token => reject source token none
        | .operator ";" => pure ([allArguments], source)
        | token => pure ([allArguments], Token.putBack token source)
      let (token, source) ← Token.next nested { skipsBreaks := true, reserves := true } source
      return ((name, words), Token.putBack token source)

/-- Reads the arms of a choice from a token on. -/
def arms : Nat → Token → Reader Arms
  | 0, token, source => reject source token none
  | fuel + 1, token, source => do
    let nested : Nested := ⟨substitution fuel, wholeText fuel⟩
    match token with
    | .reserved "esac" => return (.none, source)
    | token =>
      let (token, source) ← if isOperator "(" token then Token.next nested {} source else pure (token, source)
      let (found, source) ← patterns nested (source.rest.length + 2) token source
      let (body, source) ← list fuel .any none source
      let (token, source) ← Token.next nested { skipsBreaks := true, reserves := true } source
      let body := body.getD nothing
      match token with
      | .reserved "esac" => return (.arm found body .none, source)
      | .operator ";;" => do
        let (token, source) ← Token.next nested { skipsBreaks := true, reserves := true } source
        let (more, source) ← arms fuel token source
        return (.arm found body more, source)
      | token => reject source token (Option.some (.operator ";;"))

end

def enough (length : Nat) : Nat :=
  16 * length + 64

/-- Reads the commands of the next line; nothing is answered at the end of the text. -/
def line (source : Source) : Except Mistake (Option Script × Source) := do
  let (found, source) ← list (enough source.rest.length) .line none source
  return (found.map (fill source.documents), { source with documents := [] })

end Script

end GuardedPlan.Shell
