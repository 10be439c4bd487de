/-!
# TOML values

The values that a TOML document denotes. Floats and dates are kept as they were written, because nothing here computes with them.
-/

namespace GuardedPlan

/-- A value of a TOML document; the keys of a table are distinct. -/
inductive Toml where
  | string (text : String)
  | integer (n : Int)
  | float (text : String)
  | boolean (b : Bool)
  | moment (text : String)
  | array (items : List Toml)
  | table (entries : List (String × Toml))
deriving Repr

namespace Toml

def text? : Toml → Option String
  | string text => some text
  | _ => none

def texts? : Toml → Option (List String)
  | array items => items.mapM text?
  | _ => none

/-- The value of an integer that is not negative and fits 64 bits. -/
def natural? : Toml → Option Nat
  | integer n => if 0 ≤ n ∧ n < Int.pow 2 64 then some n.toNat else none
  | _ => none

def field? (key : String) : Toml → Option Toml
  | table entries => entries.lookup key
  | _ => none

end Toml

end GuardedPlan
