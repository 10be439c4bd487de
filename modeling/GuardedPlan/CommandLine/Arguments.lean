/-!
# Command-line arguments

A command is followed by one file and by options that take a value, in any order; after two dashes everything is a file. An option may be given once, and neither a file nor a value may be empty. Asking for the version or for help ends the reading at once.
-/

namespace GuardedPlan.CommandLine

/-- How findings are reported. -/
inductive Format where
  | text
  | json
deriving DecidableEq, Repr

namespace Format

def named : List (String × Format) :=
  [("text", text), ("json", json)]

end Format

inductive Command where
  | compile (spec registry : String) (out : Option String) (format : Format)
  | run (plan registry workDirectory : String) (config spec : Option String)
  | decisions (spec : String)
deriving DecidableEq, Repr

def Command.paths : Command → List String
  | compile spec registry out _ => [spec, registry] ++ out.toList
  | run plan registry workDirectory config spec => [plan, registry, workDirectory] ++ config.toList ++ spec.toList
  | decisions spec => [spec]

inductive Topic where
  | compile
  | run
  | decisions
deriving DecidableEq, Repr

namespace Topic

def named : List (String × Topic) :=
  [("compile", compile), ("run", run), ("decisions", decisions)]

/-- The options of a command; each of them takes a value. -/
def options : Topic → List String
  | compile => ["registry", "out", "format"]
  | run => ["registry", "workdir", "config", "spec"]
  | decisions => []

def fileName : Topic → String
  | run => "PLAN"
  | _ => "SPEC"

end Topic

/-- What help is about: the program, one of its commands, or the command that gives help. -/
inductive Subject where
  | program
  | command (topic : Topic)
  | help
deriving DecidableEq, Repr

/-- What is asked for. -/
inductive Request where
  | command (command : Command)
  | version
  | help (subject : Subject)
deriving DecidableEq, Repr

inductive UsageFault where
  | noCommand
  | unknownCommand (text : String)
  | unexpected (text : String)
  | missingValue (option : String)
  | repeated (option : String)
  | empty (name : String)
  | badFormat (text : String)
  | missing (name : String)
deriving DecidableEq, Repr

def UsageFault.message : UsageFault → String
  | noCommand => "a command is required"
  | unknownCommand text => "unrecognized command '" ++ text ++ "'"
  | unexpected text => "unexpected argument '" ++ text ++ "'"
  | missingValue option => "a value is required for '--" ++ option ++ "'"
  | repeated option => "the option '--" ++ option ++ "' cannot be used multiple times"
  | empty name => "an empty value is not allowed for '" ++ name ++ "'"
  | badFormat text => "invalid value '" ++ text ++ "' for '--format': expected text or json"
  | missing name => "the argument '" ++ name ++ "' is required"

/-- The arguments of a command that were read so far. -/
structure Arguments where
  file : Option String := none
  values : List (String × String) := []
deriving DecidableEq, Repr

namespace Arguments

def take (arguments : Arguments) (option value : String) : Except UsageFault Arguments :=
  if (arguments.values.lookup option).isSome then .error (.repeated option)
  else if value = "" then .error (.empty ("--" ++ option))
  else if option = "format" && (Format.named.lookup value).isNone then .error (.badFormat value)
  else .ok { arguments with values := arguments.values ++ [(option, value)] }

def takeFile (topic : Topic) (arguments : Arguments) (file : String) : Except UsageFault Arguments :=
  if arguments.file.isSome then .error (.unexpected file)
  else if file = "" then .error (.empty topic.fileName)
  else .ok { arguments with file := some file }

/-- What reading the arguments of a command comes to. -/
inductive Reading where
  | complete (arguments : Arguments)
  | help
deriving DecidableEq, Repr

def takeFiles (topic : Topic) (arguments : Arguments) (files : List String) : Except UsageFault Reading :=
  (files.foldlM (takeFile topic) arguments).map .complete

/-- Whether a text can be the value of an option that stands alone: a single dash, or no dash in front. -/
def isValue (text : String) : Bool :=
  text = "-" || text.toList.head? ≠ some '-'

def read (topic : Topic) (arguments : Arguments) : List String → Except UsageFault Reading
  | [] => .ok (.complete arguments)
  | text :: rest =>
    if isValue text then
      match arguments.takeFile topic text with
      | .ok arguments => read topic arguments rest
      | .error fault => .error fault
    else if text = "--" then arguments.takeFiles topic rest
    else if text = "-h" ∨ text = "--help" then .ok .help
    else
      match text.toList with
      | '-' :: '-' :: body =>
        let option := String.ofList (body.takeWhile (· ≠ '='))
        if topic.options.contains option then
          match body.dropWhile (· ≠ '='), rest with
          | _ :: value, rest =>
            match arguments.take option (String.ofList value) with
            | .ok arguments => read topic arguments rest
            | .error fault => .error fault
          | [], value :: rest =>
            if isValue value then
              match arguments.take option value with
              | .ok arguments => read topic arguments rest
              | .error fault => .error fault
            else .error (.missingValue option)
          | [], [] => .error (.missingValue option)
        else .error (.unexpected text)
      | '-' :: 'h' :: _ => .ok .help
      | _ => .error (.unexpected text)

/-- The value of an option that has to be there. -/
def require (arguments : Arguments) (option : String) : Except UsageFault String :=
  match arguments.values.lookup option with
  | some value => .ok value
  | none => .error (.missing ("--" ++ option))

def format (arguments : Arguments) : Format :=
  ((arguments.values.lookup "format").bind fun value => Format.named.lookup value).getD .text

def toCommand (topic : Topic) (arguments : Arguments) : Except UsageFault Command := do
  let some file := arguments.file | .error (.missing topic.fileName)
  match topic with
  | .compile =>
    return .compile file (← arguments.require "registry") (arguments.values.lookup "out") arguments.format
  | .run =>
    return .run file (← arguments.require "registry") ((arguments.values.lookup "workdir").getD ".")
      (arguments.values.lookup "config") (arguments.values.lookup "spec")
  | .decisions => return .decisions file

end Arguments

namespace Request

def paths : Request → List String
  | command asked => asked.paths
  | version => []
  | help _ => []

/-- The command named by the first of the arguments after `help`, if there is one. -/
def ofHelp : List String → Except UsageFault Request
  | [] => .ok (.help .program)
  | name :: rest =>
    let subject? : Option Subject := if name = "help" then some .help else (Topic.named.lookup name).map .command
    match subject?, rest with
    | some subject, [] => .ok (.help subject)
    | some _, text :: _ => .error (.unknownCommand text)
    | none, _ => .error (.unknownCommand name)

/-- The request of a flag in front of all commands. Of several letters after one dash the first one counts. -/
def ofFlag? (text : String) : Option Request :=
  match text.toList with
  | '-' :: 'h' :: _ => some (.help .program)
  | '-' :: 'V' :: _ => some .version
  | _ =>
    if text = "--help" then some (.help .program)
    else if text = "--version" then some .version
    else none

def ofArguments : List String → Except UsageFault Request
  | [] => .error .noCommand
  | name :: rest =>
    match ofFlag? name with
    | some request => .ok request
    | none =>
      if name = "help" then ofHelp rest
      else
        match Topic.named.lookup name with
        | none => .error (.unknownCommand name)
        | some topic =>
          match Arguments.read topic {} rest with
          | .error fault => .error fault
          | .ok .help => .ok (.help (.command topic))
          | .ok (.complete arguments) => (arguments.toCommand topic).map .command

end Request

end GuardedPlan.CommandLine
