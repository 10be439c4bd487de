/-!
# Relative paths

Paths in specs and plans are relative to the working directory and separated by slashes. A path reaches the file tree as it is given: one that is absolute or climbs with `..` is refused instead, and policies look at it with its leading `./` removed.
-/

namespace GuardedPlan.Path

/-- The parts between slashes, empty ones included. -/
def segments (path : String) : List String :=
  (path.toList.splitOn '/').map String.ofList

/-- Whether a segment names something: it is neither empty nor a single dot. -/
def isName (segment : String) : Bool :=
  segment ≠ "" && segment ≠ "."

/-- The named segments of several fragments in order. -/
def names (fragments : List String) : List String :=
  (fragments.flatMap segments).filter isName

/-- Joins fragments into one path of named segments; a lone dot when none is left. -/
def join (fragments : List String) : String :=
  match names fragments with
  | [] => "."
  | named => "/".intercalate named

/-- The parts between slashes or backslashes. -/
def parts (path : List Char) : List (List Char) :=
  path.splitOnP fun c => c = '/' || c = '\\'

/-- Whether a path begins like a drive letter: one ASCII character and a colon. -/
def hasDrive : List Char → Bool
  | drive :: ':' :: _ => drive.toNat < 128
  | _ => false

def isRooted : List Char → Bool
  | '/' :: _ => true
  | '\\' :: _ => true
  | _ => false

/-- Whether a path stays inside the directory it is relative to. -/
def isContained (path : String) : Bool :=
  let chars := path.toList
  !chars.isEmpty && !isRooted chars && !hasDrive chars && !(parts chars).contains ['.', '.']

/-- Removes every leading `./`. -/
def dropDots : List Char → List Char
  | '.' :: '/' :: rest => dropDots rest
  | path => path

/-- The form of a path that policies look at. -/
def normalize (path : String) : String :=
  String.ofList (dropDots path.toList)

/-- A path below a directory, as both are written in messages. -/
def below (directory path : String) : String :=
  if directory = "" then path
  else if directory.toList.getLast? = some '/' then directory ++ path
  else directory ++ "/" ++ path

/-- Removes trailing slashes and trailing segments of a single dot, given in reverse; a lone first character stays. -/
def dropTailReversed : List Char → List Char
  | '/' :: c :: rest => dropTailReversed (c :: rest)
  | '.' :: '/' :: rest => if rest.isEmpty then ['/'] else dropTailReversed rest
  | path => path

/-- The path without trailing slashes and trailing dots. -/
def dropTail (path : List Char) : List Char :=
  (dropTailReversed path.reverse).reverse

/-- The path of the directory that holds what a path names; nothing for the root and for the empty path. -/
def parent? (path : String) : Option String :=
  match dropTail path.toList with
  | [] => none
  | ['/'] => none
  | chars =>
    let above := (chars.reverse.dropWhile (· ≠ '/')).reverse
    some (String.ofList (dropTail above))

end GuardedPlan.Path
