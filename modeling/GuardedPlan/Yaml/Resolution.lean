import GuardedPlan.Json.Basic
import GuardedPlan.Yaml.Scalar

/-!
# What plain scalars mean

An empty scalar is null, and so are the words for null; there are words for true and false; numbers are decimal, or integers in base 16, 8 or 2 after a mark, all with an optional sign. Digits after a leading zero are text. An integer beyond 64 bits is refused while 128 bits hold it and is a floating-point number after that; infinities and not-a-number become null, and a number that is too large for floating point is text.
-/

namespace GuardedPlan.Yaml.Scalar

def isNullWord (text : List Char) : Bool :=
  ["null", "Null", "NULL", "~"].contains (String.ofList text)

def boolean? (text : List Char) : Option Bool :=
  let text := String.ofList text
  if ["true", "True", "TRUE"].contains text then some true
  else if ["false", "False", "FALSE"].contains text then some false
  else none

/-- The value of a digit of any base up to sixteen. -/
def digitValue? (base : Nat) (c : Char) : Option Nat :=
  let value :=
    if '0' ≤ c ∧ c ≤ '9' then some (c.toNat - 48)
    else if 'a' ≤ c ∧ c ≤ 'f' then some (c.toNat - 87)
    else if 'A' ≤ c ∧ c ≤ 'F' then some (c.toNat - 55)
    else none
  value.filter fun n => n < base

/-- The number that digits write, at least one. -/
def digits? (base : Nat) (text : List Char) : Option Nat :=
  if text.isEmpty then none else text.foldlM (fun n c => (digitValue? base c).map fun d => n * base + d) 0

def takeSign : List Char → Option Char × List Char
  | '+' :: rest => (some '+', rest)
  | '-' :: rest => (some '-', rest)
  | rest => (none, rest)

def hasSign (text : List Char) : Bool :=
  (takeSign text).1.isSome

/-- Whether a text is digits after a leading zero, which no number is written like. -/
def isZeroLed (text : List Char) : Bool :=
  match (takeSign text).2 with
  | '0' :: c :: rest => (c :: rest).all Char.isDigit
  | _ => false

/-- The base that a mark after the sign stands for. -/
def takeBase : List Char → Option Nat × List Char
  | '0' :: 'x' :: rest => (some 16, rest)
  | '0' :: 'o' :: rest => (some 8, rest)
  | '0' :: 'b' :: rest => (some 2, rest)
  | rest => (none, rest)

def integer? (text : List Char) : Option Int :=
  let (sign, rest) := takeSign text
  match takeBase rest with
  | (some base, digits) =>
    (digits? base digits).map fun n => if sign = some '-' then -(n : Int) else n
  | (none, digits) =>
    if isZeroLed text then none
    else (digits? 10 digits).map fun n => if sign = some '-' then -(n : Int) else n

/-- What an integer means, by its size. -/
inductive IntegerReading where
  | fits (value : Int)
  | refused
  | beyond

/-- How an integer is read: within 64 bits, unsigned or signed, it is taken; within 128 bits it is refused. -/
def readInteger (value : Int) : IntegerReading :=
  if -Int.pow 2 63 ≤ value ∧ value < Int.pow 2 64 then .fits value
  else if -Int.pow 2 127 ≤ value ∧ value < Int.pow 2 128 then .refused
  else .beyond

/-- The floating-point number that a text writes in decimal digits, if it is finite. -/
def decimal? (text : List Char) : Option Binary64 :=
  let (sign, rest) := takeSign text
  let whole := rest.takeWhile Char.isDigit
  let rest := rest.dropWhile Char.isDigit
  let (fraction, rest) := match rest with
    | '.' :: rest => (rest.takeWhile Char.isDigit, rest.dropWhile Char.isDigit)
    | rest => ([], rest)
  let digits := whole ++ fraction
  let exponent : Option Int := match rest with
    | [] => some 0
    | c :: rest =>
      if c = 'e' ∨ c = 'E' then
        let (sign, rest) := takeSign rest
        (digits? 10 rest).map fun n => if sign = some '-' then -(n : Int) else n
      else none
  if digits.isEmpty then none
  else
    exponent.bind fun exponent =>
      (digits? 10 digits).bind fun n => Binary64.ofDecimal? (sign = some '-') n (exponent - fraction.length)

/-- The words for infinities and for what is not a number. -/
def isSpecial (text : List Char) : Bool :=
  [".inf", ".Inf", ".INF", "+.inf", "+.Inf", "+.INF", "-.inf", "-.Inf", "-.INF", ".nan", ".NaN", ".NAN"].contains
    (String.ofList text)

/-- The floating-point value of a text: a number, or null for a special word. -/
def float? (text : List Char) : Option Json :=
  if isSpecial text then some .null else (decimal? text).map fun x => .number (.float x)

/-- The value of a plain scalar; an error only for an integer that is refused. -/
def plainValue (text : List Char) : Option Json :=
  let asText : Json := .string (String.ofList text)
  let asFloat := if isZeroLed text then asText else (float? text).getD asText
  if text.isEmpty || isNullWord text then some .null
  else
    match boolean? text with
    | some value => some (.bool value)
    | none =>
      match (integer? text).map readInteger with
      | some (.fits value) => some (.number (.int value))
      | some .refused => none
      | some .beyond => some asFloat
      | none => some asFloat

def untaggedValue (style : ScalarStyle) (text : List Char) : Option Json :=
  match style with
  | .plain => plainValue text
  | .quoted => some (.string (String.ofList text))

def isLocalTag (tag : List Char) : Bool :=
  tag.head? = some '!'

def isTextTag (tag : List Char) : Bool :=
  (ByteArray.mk (tag.map fun c => c.toNat.toUInt8).toArray).validateUTF8

/-- The value of a scalar with a tag. Local tags are refused when they are text and count as none when they are not; of the standard ones those for booleans, numbers and null are obeyed; every other one makes text. -/
def taggedValue (tag : List Char) (style : ScalarStyle) (text : List Char) : Option Json :=
  let core (name : String) : Bool := tag = "tag:yaml.org,2002:".toList ++ name.toList
  if isLocalTag tag then (if isTextTag tag then none else untaggedValue style text)
  else if core "bool" then (boolean? text).map .bool
  else if core "int" then
    match (integer? text).map readInteger with
    | some (.fits value) => some (.number (.int value))
    | _ => none
  else if core "float" then float? text
  else if core "null" then if isNullWord text then some .null else none
  else some (.string (String.ofList text))

end GuardedPlan.Yaml.Scalar
