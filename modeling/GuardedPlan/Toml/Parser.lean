import GuardedPlan.Toml.Layout
import GuardedPlan.Toml.Scalar

/-!
# Reading TOML

A document is a list of statements, one a line: headers that open tables and keys with values. Arrays and inline tables may span lines and hold comments and trailing commas; only a dotted key stays on its line. The reader answers nothing for a text that is not TOML.
-/

namespace GuardedPlan.Toml

/-- The levels of arrays and inline tables that a document may nest, and the parts that a dotted key may have. -/
def maxDepth : Nat := 80

namespace Reader

/-- Drops a comment up to the end of its line; nothing when it holds a control character. -/
def skipComment (input : List Char) : Option (List Char) :=
  match input with
  | '#' :: rest =>
    let body := rest.takeWhile (· ≠ '\n')
    let after := rest.dropWhile (· ≠ '\n')
    let ended := match body.getLast?, after with
      | some '\r', '\n' :: _ => body.dropLast
      | _, _ => body
    if ended.any isControl then none else some after
  | _ => some input

/-- Drops white space, line breaks and comments. -/
def skipLines : Nat → List Char → Option (List Char)
  | 0, _ => none
  | fuel + 1, input =>
    match skipComment (skipSpace input) with
    | none => none
    | some rest =>
      match afterBreak? rest with
      | some rest => skipLines fuel rest
      | none => some rest

/-- Drops the end of a line: white space, a comment and the line break, which may be missing at the end of the document. -/
def endLine (input : List Char) : Option (List Char) :=
  match skipComment (skipSpace input) with
  | none => none
  | some [] => some []
  | some rest => afterBreak? rest

def isBareKeyChar (c : Char) : Bool :=
  c.isAlphanum || c = '_' || c = '-'

def simpleKey (input : List Char) : Option (String × List Char) :=
  match Text.oneLine input with
  | some (text, rest) => some (String.ofList text, rest)
  | none =>
    let name := input.takeWhile isBareKeyChar
    if name.isEmpty then none else some (String.ofList name, input.dropWhile isBareKeyChar)

/-- Reads a dotted key of at most so many parts: the path of its tables and its last part. White space around it is dropped. -/
def key : Nat → List Char → Option (List String × String × List Char)
  | 0, _ => none
  | parts + 1, input =>
    match simpleKey (skipSpace input) with
    | none => none
    | some (name, rest) =>
      match skipSpace rest with
      | '.' :: rest => (key parts rest).map fun (path, last, rest) => (name :: path, last, rest)
      | rest => some ([], name, rest)

/-- Reads the sign between a key and its value in an inline table, with the lines around it. -/
def equals (input : List Char) : Option (List Char) :=
  match skipLines (input.length + 1) input with
  | some ('=' :: rest) => skipLines (rest.length + 1) rest
  | _ => none

mutual

/-- Reads a value inside of which `depth` levels may still open. -/
def value : Nat → Nat → List Char → Option (Toml × List Char)
  | 0, _, _ => none
  | fuel + 1, depth, input =>
    match input with
    | '[' :: rest =>
      match depth with
      | 0 => none
      | depth + 1 => items fuel depth [] rest
    | '\x7b' :: rest =>
      match depth with
      | 0 => none
      | depth + 1 => fields fuel depth [] rest
    | '"' :: _ => (Text.read input).map fun (text, rest) => (string (String.ofList text), rest)
    | '\'' :: _ => (Text.read input).map fun (text, rest) => (string (String.ofList text), rest)
    | _ =>
      let (word, rest) := Scalar.word input
      (Scalar.value? word).map fun value => (value, rest)

/-- Reads the items of an array up to its bracket; `read` holds the earlier ones in reverse. -/
def items : Nat → Nat → List Toml → List Char → Option (Toml × List Char)
  | 0, _, _, _ => none
  | fuel + 1, depth, read, input =>
    match skipLines (input.length + 1) input with
    | none => none
    | some (']' :: rest) => some (array read.reverse, rest)
    | some rest =>
      match value fuel depth rest with
      | none => none
      | some (item, rest) =>
        match skipLines (rest.length + 1) rest with
        | some (',' :: rest) => items fuel depth (item :: read) rest
        | some (']' :: rest) => some (array (item :: read).reverse, rest)
        | _ => none

/-- Reads the fields of an inline table up to its brace. -/
def fields : Nat → Nat → List (String × Node) → List Char → Option (Toml × List Char)
  | 0, _, _, _ => none
  | fuel + 1, depth, entries, input =>
    match skipLines (input.length + 1) input with
    | none => none
    | some ('\x7d' :: rest) => some (table (Node.entriesToToml entries), rest)
    | some rest =>
      match (key maxDepth rest).bind fun (path, name, rest) => (equals rest).map fun rest => (path, name, rest) with
      | none => none
      | some (path, name, rest) =>
        match value fuel depth rest with
        | none => none
        | some (field, rest) =>
          match Node.assign path name field entries with
          | none => none
          | some entries =>
            match skipLines (rest.length + 1) rest with
            | some (',' :: rest) => fields fuel depth entries rest
            | some ('\x7d' :: rest) => some (table (Node.entriesToToml entries), rest)
            | _ => none

end

end Reader

inductive Statement where
  | opens (path : List String) (key : String)
  | opensNext (path : List String) (key : String)
  | assigns (path : List String) (key : String) (value : Toml)

namespace Statement

/-- Reads a statement, which does not start with white space. -/
def read (input : List Char) : Option (Statement × List Char) :=
  match input with
  | '[' :: '[' :: rest =>
    match Reader.key maxDepth rest with
    | some (path, key, ']' :: ']' :: rest) => some (opensNext path key, rest)
    | _ => none
  | '[' :: rest =>
    match Reader.key maxDepth rest with
    | some (path, key, ']' :: rest) => some (opens path key, rest)
    | _ => none
  | _ =>
    match Reader.key maxDepth input with
    | some (path, key, '=' :: rest) =>
      (Reader.value (2 * rest.length + 2) maxDepth (skipSpace rest)).map fun (value, rest) => (assigns path key value, rest)
    | _ => none

def readAll : Nat → List Char → Option (List Statement)
  | 0, _ => none
  | fuel + 1, input =>
    match Reader.skipLines (input.length + 1) input with
    | none => none
    | some [] => some []
    | some rest =>
      match read rest with
      | none => none
      | some (statement, rest) =>
        match Reader.endLine rest with
        | none => none
        | some rest => (readAll fuel rest).map (statement :: ·)

/-- Builds the tables of a document; `current` is the path of the table that was opened last. -/
def build : List String → List (String × Node) → List Statement → Option (List (String × Node))
  | _, root, [] => some root
  | _, root, opens path key :: rest =>
    (Node.openTable path key root).bind fun root => build (path ++ [key]) root rest
  | _, root, opensNext path key :: rest =>
    (Node.openNext path key root).bind fun root => build (path ++ [key]) root rest
  | current, root, assigns path key value :: rest =>
    (Node.within .passed (fun _ entries => Node.assign path key value entries) current .opened root).bind fun root =>
      build current root rest

end Statement

/-- The table that a whole text denotes, if it is TOML. A byte order mark at the front does not count. -/
def parse? (text : String) : Option Toml :=
  let input := match text.toList with
    | '\uFEFF' :: rest => rest
    | input => input
  ((Statement.readAll (input.length + 1) input).bind (Statement.build [] [])).map fun entries =>
    table (Node.entriesToToml entries)

end GuardedPlan.Toml
