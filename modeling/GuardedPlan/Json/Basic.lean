import GuardedPlan.Number.Binary64
import GuardedPlan.Table

/-!
# JSON values

The dynamic value that specs, manifests and plans are read from. Numbers keep the difference between an integer literal of at most 64 bits and every other number. Readers build objects with `insertEntry`, which keeps the keys ascending and lets the last of two equal keys win.
-/

namespace GuardedPlan

/-- A number as written: an integer of at most 64 bits, or a binary floating-point number. -/
inductive Number where
  | int (value : Int)
  | float (value : Binary64)
deriving DecidableEq, Repr, Inhabited

namespace Number

/-- The value in least units of binary floating point, which is exact for integers too. -/
def units : Number → Int
  | int value => value * Binary64.one
  | float value => value.units

def toBinary64 : Number → Binary64
  | int value => (Binary64.ofInt? value).getD (Binary64.zero false)
  | float value => value

end Number

/-- A JSON value. Object fields keep the order they are given in. -/
inductive Json where
  | null
  | bool (value : Bool)
  | number (value : Number)
  | string (text : String)
  | array (items : List Json)
  | object (fields : List (String × Json))
deriving Repr, BEq, Inhabited

namespace Json

inductive Kind where
  | null
  | boolean
  | number
  | string
  | array
  | object
deriving DecidableEq, Repr

def Kind.name : Kind → String
  | .null => "null"
  | .boolean => "boolean"
  | .number => "number"
  | .string => "string"
  | .array => "array"
  | .object => "object"

def kind : Json → Kind
  | null => .null
  | bool _ => .boolean
  | number _ => .number
  | string _ => .string
  | array _ => .array
  | object _ => .object

/-- Ascending fields from fields in any order, the last of equal keys winning. -/
def sortFields (fields : List (String × Json)) : List (String × Json) :=
  fields.foldl (fun sorted field => insertEntry field.1 field.2 sorted) []

/-- The value of the first field of that name. -/
def lookup (key : String) : List (String × Json) → Option Json
  | [] => none
  | (name, value) :: rest => if name = key then some value else lookup key rest

/-- A member of an object; nothing for any other value. -/
def field? (key : String) : Json → Option Json
  | object fields => lookup key fields
  | _ => none

/-- The value as a natural number, when it is an integer literal that is not negative. -/
def natural? : Json → Option Nat
  | number (.int value) => if 0 ≤ value then some value.toNat else none
  | _ => none

def strings (texts : List String) : Json :=
  array (texts.map string)

mutual

/-- The value with the fields of every object in ascending order. -/
def canonical : Json → Json
  | null => null
  | bool value => bool value
  | number value => number value
  | string text => string text
  | array items => array (canonicalItems items)
  | object fields => object (sortFields (canonicalFields fields))

def canonicalItems : List Json → List Json
  | [] => []
  | item :: rest => canonical item :: canonicalItems rest

def canonicalFields : List (String × Json) → List (String × Json)
  | [] => []
  | (key, value) :: rest => (key, canonical value) :: canonicalFields rest

end

end Json

end GuardedPlan
