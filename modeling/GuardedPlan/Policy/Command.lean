import GuardedPlan.Manifest.Basic
import GuardedPlan.Text.Blank

/-!
# Command policies

A command may run when its leading token is allowed and it holds none of the denied substrings.
-/

namespace GuardedPlan

def Text.contains (needle : List Char) : List Char → Bool
  | [] => needle.isEmpty
  | c :: rest => needle.isPrefixOf (c :: rest) || contains needle rest

inductive CommandViolation where
  | notAllowed (token : String)
  | deniedSubstring (needle : String)
deriving DecidableEq, Repr

namespace CommandsPolicy

/-- The allowed leading tokens in ascending order, each once. -/
def allowedPrefixes (policy : CommandsPolicy) : List String :=
  (Table.ofList (policy.allowPrefixes.map fun token => (token, ()))).names

def violations (policy : CommandsPolicy) (command : String) : List CommandViolation :=
  let token := Text.leadingToken command
  (if policy.allowPrefixes.contains token then [] else [.notAllowed token]) ++
    (policy.denySubstrings.filter fun needle => Text.contains needle.toList command.toList).map .deniedSubstring

end CommandsPolicy

end GuardedPlan
