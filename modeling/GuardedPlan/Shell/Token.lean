import GuardedPlan.Shell.Script

/-!
# Tokens of the shell

A text is read token by token: words, operators, redirections and line breaks. Quotes keep operators and white space from ending a word, and a backslash does so for one character. A substitution holds a script of its own, so that reading words needs a reader of scripts, which is handed in.
-/

namespace GuardedPlan.Shell

/-- A token; a redirection carries the descriptor that it is for. -/
inductive Token where
  | ending
  | newline
  | word (word : Word)
  | reserved (text : String)
  | operator (text : String)
  | redirect (descriptor : Nat) (operator : String)

inductive ScriptFault where
  | unterminated
  | unclosedBackquote
  | missingBrace
  | missingParentheses
  | loopVariable
  | functionName
  | badDescriptor
  | unexpected (found : Token) (wanted : Option String)

/-- A fault and the line where it was noticed. -/
structure Mistake where
  line : Nat
  fault : ScriptFault

def Token.name : Token → String
  | ending => "end of file"
  | newline => "newline"
  | word _ => "word"
  | redirect _ _ => "redirection"
  | reserved text => "\"" ++ text ++ "\""
  | operator text => "\"" ++ text ++ "\""

def ScriptFault.message (fault : ScriptFault) : String :=
  "Syntax error: " ++
    match fault with
    | unterminated => "Unterminated quoted string"
    | unclosedBackquote => "EOF in backquote substitution"
    | missingBrace => "Missing '\x7d'"
    | missingParentheses => "Missing '))'"
    | loopVariable => "Bad for loop variable"
    | functionName => "Bad function name"
    | badDescriptor => "Bad fd number"
    | unexpected found none => found.name ++ " unexpected"
    | unexpected found (some wanted) => found.name ++ " unexpected (expecting " ++ wanted ++ ")"

/-- A text in the script whose lines have not come yet: where it belongs, the line that ends it, whether its lines are taken as they are and whether tabs in front of them are dropped. -/
structure Awaited where
  index : Nat
  delimiter : List Char
  isPlain : Bool
  dropsTabs : Bool

/-- A text that is being read. -/
structure Source where
  rest : List Char
  line : Nat := 1
  returned : Option Token := none
  awaited : List Awaited := []
  documents : List (Nat × Word) := []
  count : Nat := 0

abbrev Reader (α : Type) := Source → Except Mistake (α × Source)

/-- What reads the scripts inside of words: one up to a closing parenthesis, and one that is a text of its own. -/
structure Nested where
  list : Reader Script
  text : (line : Nat) → List Char → Except Mistake Script

namespace Source

def mistake (source : Source) (fault : ScriptFault) : Mistake :=
  ⟨source.line, fault⟩

def skip (source : Source) (count : Nat) : Source :=
  { source with
    rest := source.rest.drop count
    line := source.line + ((source.rest.take count).filter (· = '\n')).length }

end Source

namespace Word

/-! ### Reading words -/

/-- Where pieces stand: in the open, between braces, between double quotes, between braces there, in a text of the script or in an expression. -/
inductive Setting where
  | bare
  | braced
  | quoted
  | quotedBraced
  | document
  | arithmetic
deriving DecidableEq, Repr

namespace Setting

def isQuoted : Setting → Bool
  | bare => false
  | braced => false
  | _ => true

def isOrdinary (setting : Setting) (c : Char) : Bool :=
  match setting with
  | bare => !(" \t\n;&|<>()'\"\\$\x60".toList.contains c)
  | braced => !("\n'\"\\$\x60\x7d".toList.contains c)
  | quoted => !("\n\"\\$\x60".toList.contains c)
  | quotedBraced => !("\n\"\\$\x60\x7d".toList.contains c)
  | document => !("\n\\$\x60".toList.contains c)
  | arithmetic => !("\n()\\$\x60".toList.contains c)

/-- Whether a backslash in a setting makes a character literal. -/
def escapes (setting : Setting) (c : Char) : Bool :=
  match setting with
  | bare => true
  | braced => true
  | quoted => "$\x60\\\"".toList.contains c
  | quotedBraced => "$\x60\\\"\x7d".toList.contains c
  | document => "$\x60\\".toList.contains c
  | arithmetic => "$\x60\\\"".toList.contains c

/-- The fault of a text that ends in a setting, if it must not. -/
def fault? : Setting → Option ScriptFault
  | bare => none
  | document => none
  | braced => some .missingBrace
  | quoted => some .unterminated
  | quotedBraced => some .unterminated
  | arithmetic => some .missingParentheses

/-- The setting of a word that stands in for a parameter. -/
def inBraces : Setting → Setting
  | bare => braced
  | braced => braced
  | _ => quotedBraced

end Setting

def addText (chars : List Char) (isQuoted : Bool) : Word → Word
  | .text before same :: rest =>
    if same = isQuoted then .text (before ++ chars) same :: rest else .text chars isQuoted :: .text before same :: rest
  | pieces => .text chars isQuoted :: pieces

/-- Whether a character alone is the name of a parameter. -/
def isSpecial (c : Char) : Bool :=
  c.isDigit || ['?', '$', '#', '@', '*', '!', '-'].contains c

/-- The text between backquotes, without the backslashes that keep it together, and the rest after the closing one. -/
def backquoted (isQuoted : Bool) : List Char → Option (List Char × List Char)
  | [] => none
  | '\x60' :: rest => some ([], rest)
  | '\\' :: '\n' :: rest => backquoted isQuoted rest
  | '\\' :: c :: rest =>
    (backquoted isQuoted rest).map fun (text, rest) =>
      if c = '\\' ∨ c = '\x60' ∨ c = '$' ∨ (c = '"' ∧ isQuoted) then (c :: text, rest) else ('\\' :: c :: text, rest)
  | c :: rest => (backquoted isQuoted rest).map fun (text, rest) => (c :: text, rest)

/-- The name of a parameter between braces and the rest, and whether its length is asked for; nothing when there is no name. -/
def bracedName? (input : List Char) : Option (String × Bool × List Char) :=
  let named (input : List Char) : Option (String × List Char) :=
    match input with
    | c :: rest =>
      if isNameStart c then some (String.ofList (c :: rest.takeWhile isNameChar), rest.dropWhile isNameChar)
      else if c.isDigit then some (String.ofList (c :: rest.takeWhile Char.isDigit), rest.dropWhile Char.isDigit)
      else if isSpecial c then some (String.ofList [c], rest)
      else none
    | [] => none
  match input with
  | '#' :: c :: rest =>
    if isNameChar c then (named (c :: rest)).map fun (name, rest) => (name, true, rest)
    else if isSpecial c && rest.head? = some '\x7d' then some (String.ofList [c], true, rest)
    else some ("#", false, c :: rest)
  | input => (named input).map fun (name, rest) => (name, false, rest)

/-- What is asked of a parameter after its name, apart from the word that may follow, and the rest in front of that word. -/
def use? (input : List Char) : Option ((Word → Use) × Bool × List Char) :=
  let kind? (c : Char) : Option Fallback :=
    match c with
    | '-' => some .word
    | '=' => some .assigned
    | '?' => some .complaint
    | '+' => some .presence
    | _ => none
  match input with
  | ':' :: c :: rest => (kind? c).map fun kind => (.fallback kind true, false, rest)
  | '%' :: '%' :: rest => some (.trim true true, true, rest)
  | '%' :: rest => some (.trim true false, true, rest)
  | '#' :: '#' :: rest => some (.trim false true, true, rest)
  | '#' :: rest => some (.trim false false, true, rest)
  | c :: rest => (kind? c).map fun kind => (.fallback kind false, false, rest)
  | [] => none

mutual

/-- Reads pieces up to the end of their setting; `read` holds those so far in reverse, `depth` counts the open parentheses of an expression. -/
def pieces (nested : Nested) : Nat → Setting → Nat → Word → Reader Word
  | 0, _, _, _, source => .error (source.mistake .unterminated)
  | fuel + 1, setting, depth, read, source =>
    let isQuoted := setting.isQuoted
    match source.rest with
    | [] =>
      match setting.fault? with
      | some fault => .error (source.mistake fault)
      | none => .ok (read.reverse, source)
    | '\\' :: '\n' :: _ => pieces nested fuel setting depth read (source.skip 2)
    | '\\' :: c :: _ =>
      if setting.escapes c then pieces nested fuel setting depth (addText [c] true read) (source.skip 2)
      else pieces nested fuel setting depth (addText ['\\', c] true read) (source.skip 2)
    | ['\\'] => pieces nested fuel setting depth (addText ['\\'] true read) (source.skip 1)
    | '$' :: _ =>
      match dollar nested fuel setting (source.skip 1) with
      | .error fault => .error fault
      | .ok (some piece, source) => pieces nested fuel setting depth (piece :: read) source
      | .ok (none, source) => pieces nested fuel setting depth (addText ['$'] isQuoted read) source
    | '\x60' :: rest =>
      match backquoted isQuoted rest with
      | none => .error (source.mistake .unclosedBackquote)
      | some (text, after) =>
        match nested.text source.line text with
        | .error fault => .error fault
        | .ok script =>
          pieces nested fuel setting depth (.output script isQuoted :: read)
            (source.skip (source.rest.length - after.length))
    | c :: rest =>
      let run := (c :: rest).takeWhile setting.isOrdinary
      let literal (source : Source) : Except Mistake (Word × Source) :=
        pieces nested fuel setting depth (addText [c] isQuoted read) source
      if !run.isEmpty then pieces nested fuel setting depth (addText run isQuoted read) (source.skip run.length)
      else if c = '\n' && setting ≠ .bare then literal (source.skip 1)
      else
        match setting, c with
        | .bare, '\'' => single nested fuel setting depth read (source.skip 1)
        | .braced, '\'' => single nested fuel setting depth read (source.skip 1)
        | .bare, '"' => double nested fuel setting depth read (source.skip 1)
        | .braced, '"' => double nested fuel setting depth read (source.skip 1)
        | .quotedBraced, '"' => double nested fuel setting depth read (source.skip 1)
        | .bare, _ => .ok (read.reverse, source)
        | .arithmetic, '(' => pieces nested fuel setting (depth + 1) (addText [c] isQuoted read) (source.skip 1)
        | .arithmetic, ')' =>
          if depth > 0 then pieces nested fuel setting (depth - 1) (addText [c] isQuoted read) (source.skip 1)
          else if rest.head? = some ')' then .ok (read.reverse, source.skip 2)
          else literal (source.skip 1)
        | _, _ => .ok (read.reverse, source.skip 1)

/-- Reads the rest of a text in single quotes and goes on. -/
def single (nested : Nested) : Nat → Setting → Nat → Word → Reader Word
  | 0, _, _, _, source => .error (source.mistake .unterminated)
  | fuel + 1, setting, depth, read, source =>
    let text := source.rest.takeWhile (· ≠ '\'')
    let after := source.skip text.length
    if after.rest.isEmpty then .error (after.mistake .unterminated)
    else pieces nested fuel setting depth (addText text true read) (after.skip 1)

/-- Reads the rest of a text in double quotes and goes on. -/
def double (nested : Nested) : Nat → Setting → Nat → Word → Reader Word
  | 0, _, _, _, source => .error (source.mistake .unterminated)
  | fuel + 1, setting, depth, read, source =>
    match pieces nested fuel .quoted 0 [] source with
    | .error fault => .error fault
    | .ok (inside, source) =>
      let inside := if inside.isEmpty then [.text [] true] else inside
      pieces nested fuel setting depth (inside.reverse ++ read) source

/-- Reads what follows a dollar sign, which may be nothing that has a meaning. -/
def dollar (nested : Nested) : Nat → Setting → Reader (Option Piece)
  | 0, _, source => .error (source.mistake .unterminated)
  | fuel + 1, setting, source =>
    let isQuoted := setting.isQuoted
    match source.rest with
    | '\\' :: '\n' :: _ => dollar nested fuel setting (source.skip 2)
    | '(' :: '(' :: _ =>
      match pieces nested fuel .arithmetic 0 [] (source.skip 2) with
      | .error fault => .error fault
      | .ok (expression, source) => .ok (some (.arithmetic expression isQuoted), source)
    | '(' :: _ =>
      match nested.list { source.skip 1 with awaited := [] } with
      | .error fault => .error fault
      | .ok (script, after) => .ok (some (.output script isQuoted), { after with awaited := source.awaited })
    | '\x7b' :: _ =>
      match braces nested fuel setting (source.skip 1) with
      | .error fault => .error fault
      | .ok (piece, source) => .ok (some piece, source)
    | c :: rest =>
      if isNameStart c then
        let name := c :: rest.takeWhile isNameChar
        .ok (some (.parameter (String.ofList name) .value isQuoted), source.skip name.length)
      else if isSpecial c then .ok (some (.parameter (String.ofList [c]) .value isQuoted), source.skip 1)
      else .ok (none, source)
    | [] => .ok (none, source)

def braces (nested : Nested) : Nat → Setting → Reader Piece
  | 0, _, source => .error (source.mistake .unterminated)
  | fuel + 1, setting, source =>
    let isQuoted := setting.isQuoted
    let malformed (source : Source) : Except Mistake (Piece × Source) :=
      match pieces nested fuel setting.inBraces 0 [] source with
      | .error fault => .error fault
      | .ok (_, source) => .ok (.parameter "" .malformed isQuoted, source)
    match bracedName? source.rest with
    | none => malformed source
    | some (name, asksLength, rest) =>
      let source := source.skip (source.rest.length - rest.length)
      match rest with
      | '\x7d' :: _ => .ok (.parameter name (if asksLength then .length else .value) isQuoted, source.skip 1)
      | rest =>
        if asksLength then malformed source
        else
          match use? rest with
          | none => malformed (source.skip 1)
          | some (use, isTrim, after) =>
            let inside : Setting := if isTrim then .braced else setting.inBraces
            match pieces nested fuel inside 0 [] (source.skip (rest.length - after.length)) with
            | .error fault => .error fault
            | .ok (word, source) => .ok (.parameter name (use word) isQuoted, source)

end

end Word

namespace Token

/-! ### Reading tokens -/

/-- The words with a meaning where a command may begin. -/
def reservedWords : List String :=
  ["!", "case", "do", "done", "elif", "else", "esac", "fi", "for", "if", "in", "then", "until", "while", "\x7b", "\x7d"]

/-- The operators; of two that fit the longer one comes first. -/
def operators : List String :=
  ["&&", "||", ";;", ";", "&", "|", "(", ")"]

/-- The redirections; of two that fit the longer one comes first. -/
def redirections : List String :=
  ["<<-", "<<", ">>", ">&", ">|", "<&", "<>", ">", "<"]

/-- The first text of a list that stands at the front of the input. -/
def leading? (texts : List String) (input : List Char) : Option String :=
  texts.find? fun text => text.toList.isPrefixOf input

/-- The redirection at the front of the input, with the digit before it, and how long both are. -/
def redirection? (input : List Char) : Option (Token × Nat) :=
  let own (operator : String) : Nat := if operator.toList.head? = some '<' then 0 else 1
  match input with
  | c :: rest =>
    if c.isDigit then
      (leading? redirections rest).map fun operator =>
        (.redirect (c.toNat - '0'.toNat) operator, operator.length + 1)
    else (leading? redirections input).map fun operator => (.redirect (own operator) operator, operator.length)
  | [] => none

def skipBlanks : Nat → Source → Source
  | 0, source => source
  | fuel + 1, source =>
    match source.rest with
    | ' ' :: _ => skipBlanks fuel (source.skip 1)
    | '\t' :: _ => skipBlanks fuel (source.skip 1)
    | '\\' :: '\n' :: _ => skipBlanks fuel (source.skip 2)
    | '#' :: rest => { source with rest := rest.dropWhile (· ≠ '\n') }
    | _ => source

def fresh (nested : Nested) : Reader Token := fun source =>
  let source := skipBlanks (source.rest.length + 1) source
  match source.rest with
  | [] => .ok (.ending, source)
  | '\n' :: _ => .ok (.newline, source.skip 1)
  | input =>
    match leading? operators input, redirection? input with
    | some text, _ => .ok (.operator text, source.skip text.length)
    | none, some (token, length) => .ok (token, source.skip length)
    | none, none =>
      match Word.pieces nested (2 * input.length + 8) .bare 0 [] source with
      | .error fault => .error fault
      | .ok (found, source) => .ok (.word found, source)

/-! ### Texts in the script -/

/-- Whether an odd number of backslashes ends a line, so that the next one belongs to it. -/
def joinsNext (line : List Char) : Bool :=
  (line.reverse.takeWhile (· = '\\')).length % 2 = 1

/-- Takes the lines of an awaited text up to the one that ends it, which may be missing. -/
def takeDocument (awaited : Awaited) : Nat → Bool → List Char → List Char × List Char
  | 0, _, input => ([], input)
  | _ + 1, _, [] => ([], [])
  | fuel + 1, isJoined, input =>
    let line := input.takeWhile (· ≠ '\n')
    let after := input.drop line.length
    let shown := if awaited.dropsTabs && !isJoined then line.dropWhile (· = '\t') else line
    if shown = awaited.delimiter && !isJoined then ([], after.drop 1)
    else
      let (more, rest) := takeDocument awaited fuel (!awaited.isPlain && joinsNext line) (after.drop 1)
      (shown ++ after.take 1 ++ more, rest)

/-- Reads the awaited texts after a line break. -/
def documents (nested : Nested) (source : Source) : Except Mistake Source :=
  source.awaited.foldlM (fun source awaited => do
    let (text, rest) := takeDocument awaited (source.rest.length + 1) false source.rest
    let after := source.skip (source.rest.length - rest.length)
    let body ←
      if awaited.isPlain then pure [.text text true]
      else do
        let (body, _) ← Word.pieces nested (2 * text.length + 8) .document 0 [] { rest := text, line := source.line }
        pure body
    return { after with documents := (awaited.index, body) :: after.documents }) { source with awaited := [] }

/-- What a token may be where it is read: whether line breaks are skipped and whether words are reserved. -/
structure Place where
  skipsBreaks : Bool := false
  reserves : Bool := false

def afterBreaks (nested : Nested) : Nat → Token → Reader Token
  | 0, token, source => .ok (token, source)
  | fuel + 1, .newline, source => do
    let source ← documents nested source
    let (token, source) ← fresh nested source
    afterBreaks nested fuel token source
  | _ + 1, token, source => .ok (token, source)

/-- Reads a token, or takes the one that was put back. -/
def next (nested : Nested) (place : Place) : Reader Token := fun source => do
  let (token, source) ←
    match source.returned with
    | some token => pure (token, { source with returned := none })
    | none => fresh nested source
  let (token, source) ←
    if place.skipsBreaks then afterBreaks nested (source.rest.length + 2) token source else pure (token, source)
  match token with
  | .word found =>
    match place.reserves, Word.plain? found with
    | true, some text => return (if reservedWords.contains text then .reserved text else token, source)
    | _, _ => return (token, source)
  | token => return (token, source)

def putBack (token : Token) (source : Source) : Source :=
  { source with returned := some token }

end Token

end GuardedPlan.Shell
