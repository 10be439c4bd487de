import GuardedPlan.Shell.Deeper

/-!
# Options of programs

Programs read their arguments by one rule: options are letters behind a dash, which may stand together, or names behind two dashes; a value follows in the same argument or in the next one; operands may stand between options, and two dashes alone end the options.
-/

namespace GuardedPlan.Shell

/-- The options that a program knows: letters, letters that take a value, and names that stand for a letter. -/
structure OptionTable where
  plain : String := ""
  valued : String := ""
  named : List (String × Char) := []
  mixes : Bool := true

/-- An option as it was given; without a value the text is empty. -/
abbrev GivenOption := Char × String

/-- What a program was asked: options in order, and operands. -/
structure Request where
  options : List GivenOption := []
  operands : List String := []

namespace Request

def has (request : Request) (letter : Char) : Bool :=
  request.options.any fun option => option.1 = letter

def value? (request : Request) (letter : Char) : Option String :=
  (request.options.reverse.find? fun option => option.1 = letter).map Prod.snd

def values (request : Request) (letter : Char) : List String :=
  (request.options.filter fun option => option.1 = letter).map Prod.snd

/-- Reads a cluster of letters; the last one may take a value from the next argument. -/
def letters (table : OptionTable) (rest : List String) : List Char → Except String (List GivenOption × List String)
  | [] => .ok ([], rest)
  | letter :: more =>
    if table.valued.toList.contains letter then
      match more, rest with
      | [], [] => .error ("option requires an argument -- '" ++ String.ofList [letter] ++ "'")
      | [], value :: rest => .ok ([(letter, value)], rest)
      | more, rest => .ok ([(letter, String.ofList more)], rest)
    else if table.plain.toList.contains letter then
      (letters table rest more).map fun (found, rest) => ((letter, "") :: found, rest)
    else .error ("invalid option -- '" ++ String.ofList [letter] ++ "'")

/-- Reads an option by name, which may be shortened as long as no other name fits. -/
def byName (table : OptionTable) (rest : List String) (argument : String) :
    Except String (List GivenOption × List String) :=
  let chars := argument.toList.drop 2
  let name := chars.takeWhile (· ≠ '=')
  let value? := if name.length < chars.length then some (String.ofList (chars.drop (name.length + 1))) else none
  let shown := "'--" ++ String.ofList name ++ "'"
  let exact := table.named.filter fun (known, _) => known.toList = name
  let fitting := if exact.isEmpty then table.named.filter fun (known, _) => name.isPrefixOf known.toList else exact
  match fitting with
  | [] => .error ("unrecognized option '" ++ argument ++ "'")
  | [(_, letter)] =>
    if table.valued.toList.contains letter then
      match value?, rest with
      | some value, rest => .ok ([(letter, value)], rest)
      | none, value :: rest => .ok ([(letter, value)], rest)
      | none, [] => .error ("option " ++ shown ++ " requires an argument")
    else .ok ([(letter, value?.getD "")], rest)
  | _ => .error ("option " ++ shown ++ " is ambiguous")

/-- Reads arguments, as many as `fuel`. -/
def readFrom (table : OptionTable) : Nat → List String → Except String Request
  | 0, _ => .ok {}
  | _ + 1, [] => .ok {}
  | fuel + 1, argument :: rest => do
    match argument.toList with
    | ['-', '-'] => return { operands := rest }
    | '-' :: '-' :: _ =>
      let (found, rest) ← byName table rest argument
      let more ← readFrom table fuel rest
      return { more with options := found ++ more.options }
    | '-' :: letter :: more =>
      let (found, rest) ← letters table rest (letter :: more)
      let more ← readFrom table fuel rest
      return { more with options := found ++ more.options }
    | _ =>
      if table.mixes then
        let more ← readFrom table fuel rest
        return { more with operands := argument :: more.operands }
      else return { operands := argument :: rest }

def read (table : OptionTable) (arguments : List String) : Except String Request :=
  readFrom table (arguments.length + 1) arguments

end Request

namespace Session

def warn (session : Session) (text : String) : Session :=
  session.complain (session.name ++ ": " ++ text)

/-- Prints an error of a program under its name and ends it with a status. -/
def refuse (session : Session) (status : Nat) (text : String) : Session :=
  (session.warn text).finish status

/-- Prints an error of a program about how it is used and ends it with a status. -/
def misused (session : Session) (status : Nat) (text : String) : Session :=
  (session.warn text).complain ("Try '" ++ session.name ++ " --help' for more information.") |>.finish status

def put (session : Session) (bytes : String) : Session :=
  if bytes = "" then session
  else
    match session.write? 1 bytes with
    | some session => session
    | none => session.refuse 1 "write error: Bad file descriptor"

end Session

namespace Utility

/-- A program that reads its arguments by a table; the status is for arguments that do not fit it. -/
def withOptions (table : OptionTable) (status : Nat) (run : Request → Session → Session) : Utility :=
  fun arguments session =>
    match Request.read table arguments with
    | .error message => session.misused status message
    | .ok request => run request session

/-- A program with another one's name in front of what it says. -/
def named (name : String) (utility : Utility) : Utility :=
  fun arguments session => utility arguments { session with name := name }

end Utility

end GuardedPlan.Shell
