import GuardedPlan.Shell.Deeper

/-!
# Settings of a shell

The options that a shell is started with or sets while it runs: letters behind a dash that turn them on or behind a plus that turns them off, or names behind the letter `o`.
-/

namespace GuardedPlan.Shell

namespace Setting

/-- The options by name, with their letters; two of them have no letter of their own and go by one that cannot be given. -/
def names : List (String × Char) :=
  [("errexit", 'e'), ("noglob", 'f'), ("ignoreeof", 'I'), ("interactive", 'i'), ("monitor", 'm'), ("noexec", 'n'),
    ("stdin", 's'), ("xtrace", 'x'), ("verbose", 'v'), ("vi", 'V'), ("emacs", 'E'), ("noclobber", 'C'),
    ("allexport", 'a'), ("notify", 'b'), ("nounset", 'u'), ("privileged", 'p'), ("nolog", '1'), ("debug", '2')]

def isLetter (letter : Char) : Bool :=
  !letter.isDigit && names.any fun known => known.2 = letter

def change (options : List Char) (letter : Char) (isOn : Bool) : List Char :=
  let others := options.filter (· ≠ letter)
  if isOn then letter :: others else others

/-- What arguments ask for: the options from then on, whether a text follows that is to be run, whether options are to be listed and how, whether arguments are to be replaced, and what is left. -/
structure Chosen where
  options : List Char
  takesText : Bool := false
  lists : List Bool := []
  replaces : Bool := false
  operands : List String := []

/-- Reads the letters of one argument; the rest of the arguments may give a name. -/
def letters (isStart isOn : Bool) : List Char → List String → Chosen → Except String (List String × Chosen)
  | [], rest, chosen => .ok (rest, chosen)
  | letter :: more, rest, chosen =>
    if isStart && letter = 'c' then letters isStart isOn more rest { chosen with takesText := true }
    else if isStart && letter = 'l' then letters isStart isOn more rest chosen
    else if letter = 'o' then
      match rest with
      | [] => letters isStart isOn more [] { chosen with lists := chosen.lists ++ [isOn] }
      | name :: rest =>
        match names.lookup name with
        | some letter => letters isStart isOn more rest { chosen with options := change chosen.options letter isOn }
        | none => .error ("Illegal option -o " ++ name)
    else if isLetter letter then
      letters isStart isOn more rest { chosen with options := change chosen.options letter isOn }
    else .error ("Illegal option -" ++ String.ofList [letter])

/-- Reads arguments, as many as `fuel`. -/
def readFrom (isStart : Bool) : Nat → List String → Chosen → Except String Chosen
  | 0, _, chosen => .ok chosen
  | _ + 1, [], chosen => .ok chosen
  | fuel + 1, argument :: rest, chosen =>
    match argument.toList with
    | ['-'] =>
      let options := if isStart then chosen.options else chosen.options.filter fun c => c ≠ 'x' && c ≠ 'v'
      .ok { chosen with options := options, replaces := !rest.isEmpty, operands := rest }
    | ['-', '-'] => .ok { chosen with replaces := true, operands := rest }
    | '-' :: more =>
      match letters isStart true more rest chosen with
      | .ok (rest, chosen) => readFrom isStart fuel rest chosen
      | .error message => .error message
    | '+' :: more =>
      match letters isStart false more rest chosen with
      | .ok (rest, chosen) => readFrom isStart fuel rest chosen
      | .error message => .error message
    | _ => .ok { chosen with replaces := true, operands := argument :: rest }

/-- Reads the arguments of a shell that starts, or of one that runs. -/
def read (isStart : Bool) (options : List Char) (arguments : List String) : Except String Chosen :=
  readFrom isStart (arguments.length + 1) arguments { options := options }

/-- The options with whether they are set, as a list to read or as commands that set them. -/
def listing (options : List Char) (isShown : Bool) : String :=
  let row (name : String) (letter : Char) : String :=
    let isOn := options.contains letter
    if isShown then name ++ String.ofList (List.replicate (16 - name.length) ' ') ++ (if isOn then "on" else "off") ++ "\n"
    else "set " ++ (if isOn then "-o " else "+o ") ++ name ++ "\n"
  (if isShown then "Current option settings\n" else "") ++ String.join (names.map fun (name, letter) => row name letter)

end Setting

end GuardedPlan.Shell
