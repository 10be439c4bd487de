import GuardedPlan.Json.Basic

/-!
# JSON numerals

A numeral without fraction and exponent that fits 64 bits is an integer; a minus sign before zero and every other numeral make a floating-point number. Its digits are gathered into a 64-bit significand. Once that is full, a further digit before the point only raises the exponent and one after it is dropped. The significand is then multiplied or divided by the floating-point number nearest to the power of ten, which rounds twice for long numerals; a result past the finite range is an error.
-/

namespace GuardedPlan.Json.Numeral

def isDigit (c : Char) : Bool :=
  '0' ≤ c && c ≤ '9'

def digitValue (c : Char) : Nat :=
  c.toNat - 48

/-- Appends digits to a significand while it fits 64 bits; also counts the digits left over. -/
def gather (significand : Nat) : List Char → Nat × Nat
  | [] => (significand, 0)
  | c :: rest =>
    let next := significand * 10 + digitValue c
    if next < Nat.pow 2 64 then gather next rest else (significand, rest.length + 1)

/-- The floating-point number nearest to a power of ten up to the 308th. -/
def powerOfTen (exponent : Nat) : Binary64 :=
  (Binary64.ofRatio? false (Nat.pow 10 exponent) 1).getD (Binary64.zero false)

/-- `x * 10 ^ exponent` by one scaling, after steps of 308 powers at a time when the exponent is below -308. -/
def scale : Nat → Binary64 → Int → Option Binary64
  | 0, x, _ => some x
  | fuel + 1, x, exponent =>
    if exponent.natAbs ≤ 308 then
      if 0 ≤ exponent then x.mul? (powerOfTen exponent.natAbs) else x.div? (powerOfTen exponent.natAbs)
    else if x.magnitude = 0 then some x
    else if 0 ≤ exponent then none
    else (x.div? (powerOfTen 308)).bind fun smaller => scale fuel smaller (exponent + 308)

/-- The floating-point number for gathered digits. Five steps of scaling always reach zero. -/
def float? (negative : Bool) (significand : Nat) (exponent : Int) : Option Number :=
  (Binary64.ofRatio? negative significand 1).bind fun x => (scale 5 x exponent).map .float

/-- Reads the exponent part, if there is one; the digits after the mark are required. -/
def exponentPart (input : List Char) : Option (Option Int × List Char) :=
  match input with
  | c :: rest =>
    if c = 'e' ∨ c = 'E' then
      let (negative, rest) := match rest with
        | '-' :: rest => (true, rest)
        | '+' :: rest => (false, rest)
        | rest => (false, rest)
      let digits := rest.takeWhile isDigit
      if digits.isEmpty then none
      else
        let size : Int := digits.foldl (fun n c => n * 10 + digitValue c) 0
        some (some (if negative then -size else size), rest.dropWhile isDigit)
    else some (none, input)
  | [] => some (none, [])

/-- Reads the fraction digits, if there is a point; at least one digit is required. -/
def fractionPart (input : List Char) : Option (Option (List Char) × List Char) :=
  match input with
  | '.' :: rest =>
    let digits := rest.takeWhile isDigit
    if digits.isEmpty then none else some (some digits, rest.dropWhile isDigit)
  | _ => some (none, input)

/-- The number made of whole digits, fraction digits and an exponent. -/
def assemble (negative : Bool) (whole : List Char) (fraction : Option (List Char)) (exponent : Option Int) :
    Option Number :=
  let (significand, left) := gather 0 whole
  match fraction, exponent, left with
  | none, none, 0 =>
    if !negative then some (.int significand)
    else if significand = 0 ∨ Nat.pow 2 63 < significand then float? true significand 0
    else some (.int (-(significand : Int)))
  | _, _, _ =>
    let digits := fraction.getD []
    let (significand, dropped) := gather significand digits
    let scaled : Int := (left : Int) - ((digits.length : Int) - dropped)
    match exponent with
    | none => float? negative significand scaled
    | some e =>
      if e.natAbs < Nat.pow 2 31 then float? negative significand (scaled + e)
      else if significand ≠ 0 ∧ 0 < e then none
      else some (.float (Binary64.zero negative))

def read (input : List Char) : Option (Number × List Char) :=
  let (negative, input) := match input with
    | '-' :: rest => (true, rest)
    | rest => (false, rest)
  let whole := input.takeWhile isDigit
  let rest := input.dropWhile isDigit
  match whole with
  | [] => none
  | '0' :: _ :: _ => none
  | _ =>
    (fractionPart rest).bind fun (fraction, rest) =>
      (exponentPart rest).bind fun (exponent, rest) =>
        (assemble negative whole fraction exponent).map fun value => (value, rest)

end GuardedPlan.Json.Numeral
