import GuardedPlan.FileTree.Basic
import GuardedPlan.Text.Blank
import GuardedPlan.Toml.Parser
import GuardedPlan.Toml.Printer

/-!
# Configuration of the executor

Which shell runs commands and how long a command may take. The file is written by hand: what it leaves out has a default, what it adds is ignored, and a file that is not there counts as empty.
-/

namespace GuardedPlan

/-- The shell, to which a command is added as last argument, and the limit of a command in seconds; zero is no limit. -/
structure Config where
  shell : List String := ["sh", "-c"]
  timeoutSeconds : Nat := 0
deriving DecidableEq, Repr

inductive ConfigFault where
  | reading (path : String) (fault : FileFault)
  | notToml (path : String)
  | noShell (path : String)
deriving DecidableEq, Repr

def ConfigFault.message : ConfigFault → String
  | reading path fault => "read " ++ path ++ ": " ++ fault.message
  | notToml path => "parse " ++ path ++ ": invalid TOML"
  | noShell path => "invalid config " ++ path ++ ": shell must be a non-empty array"

namespace Config

/-- Where the configuration of a working directory stands. -/
def defaultPath : String := ".webspec/config.toml"

def hasShell (shell : List String) : Bool :=
  match shell with
  | program :: _ => !(Text.trim program.toList).isEmpty
  | [] => false

/-- A field of a document, or its default when the document leaves it out; nothing for a value of another type. -/
def field {α : Type} (document : Toml) (key : String) (read : Toml → Option α) (absent : α) : Option α :=
  match document.field? key with
  | some value => read value
  | none => some absent

def ofToml (document : Toml) : Option Config := do
  let shell ← field document "shell" Toml.texts? ({} : Config).shell
  let timeoutSeconds ← field document "command_timeout_secs" Toml.natural? ({} : Config).timeoutSeconds
  return { shell, timeoutSeconds }

def load (tree : FileTree) (path : String) : Except ConfigFault Config :=
  if tree.pathExists path then
    match tree.readText path with
    | .error fault => .error (.reading path fault)
    | .ok text =>
      match (Toml.parse? text).bind ofToml with
      | none => .error (.notToml path)
      | some config => if hasShell config.shell then .ok config else .error (.noShell path)
  else .ok {}

def text (config : Config) : String :=
  "shell = " ++ String.ofList (Toml.Printer.strings config.shell) ++ "\ncommand_timeout_secs = " ++
    toString config.timeoutSeconds ++ "\n\n"

/-- Writes the configuration to a path and makes the directories it needs. -/
def save (config : Config) (tree : FileTree) (path : String) : Except FileFault FileTree :=
  match tree.makeDirectories ((Path.parent? path).getD "") with
  | (.error fault, _) => .error fault
  | (.ok (), tree) => tree.write path config.text.toUTF8

end Config

end GuardedPlan
