/-!
# Binary floating point, exactly

A finite binary64 number is a sign and a whole number of the least positive units `2 ^ (-1074)`. Every operation below computes the exact rational result in natural numbers and rounds it once, to the nearest representable number with ties going to the even significand, so nothing here depends on machine arithmetic.
-/

namespace GuardedPlan

/-- The nearest whole number to `num / den`, with a half going to the even neighbour. -/
def roundHalfEven (num den : Nat) : Nat :=
  let quotient := num / den
  let twice := 2 * (num % den)
  if twice < den then quotient
  else if den < twice then quotient + 1
  else if quotient % 2 = 0 then quotient else quotient + 1

/-- A finite binary64 number: `significand * 2 ^ shift` least units, with a sign. -/
structure Binary64 where
  negative : Bool
  significand : Nat
  shift : Nat
deriving DecidableEq, Repr, Inhabited

namespace Binary64

/-- How many least units make one. -/
def one : Nat := Nat.pow 2 1074

/-- The absolute value, in least units. -/
def magnitude (x : Binary64) : Nat :=
  x.significand * Nat.pow 2 x.shift

def units (x : Binary64) : Int :=
  if x.negative then -(x.magnitude : Int) else x.magnitude

/-- The numeric order, in which the two zeros are equal. -/
def le (x y : Binary64) : Bool :=
  x.units ≤ y.units

/-- Numeric equality, in which the two zeros are equal. -/
def same (x y : Binary64) : Bool :=
  x.units == y.units

def zero (negative : Bool) : Binary64 :=
  ⟨negative, 0, 0⟩

/-- A representable number has a significand of at most 53 bits, all of them used unless the shift is zero. -/
def Canonical (x : Binary64) : Prop :=
  x.significand < Nat.pow 2 53 ∧ x.shift ≤ 2045 ∧ (x.shift = 0 ∨ Nat.pow 2 52 ≤ x.significand)

/-- The number nearest to `num / den`, or nothing when that lies past the largest finite number. -/
def ofRatio? (negative : Bool) (num den : Nat) : Option Binary64 :=
  let scaled := num * one
  let quotient := scaled / den
  let shift := if quotient < Nat.pow 2 53 then 0 else Nat.log2 quotient - 52
  let significand := roundHalfEven scaled (den * Nat.pow 2 shift)
  let rounded : Binary64 :=
    if significand = Nat.pow 2 53 then ⟨negative, Nat.pow 2 52, shift + 1⟩ else ⟨negative, significand, shift⟩
  if rounded.shift ≤ 2045 then some rounded else none

def mul? (x y : Binary64) : Option Binary64 :=
  ofRatio? (x.negative != y.negative) (x.magnitude * y.magnitude) (one * one)

/-- The quotient, rounded once; nothing for a zero divisor. -/
def div? (x y : Binary64) : Option Binary64 :=
  if y.magnitude = 0 then none else ofRatio? (x.negative != y.negative) x.magnitude y.magnitude

def ofInt? (n : Int) : Option Binary64 :=
  ofRatio? (n < 0) n.natAbs 1

def decimalLength (n : Nat) : Nat :=
  (Nat.toDigits 10 n).length

/-- The number nearest to `digits * 10 ^ exponent`. Far exponents are settled by size alone. -/
def ofDecimal? (negative : Bool) (digits : Nat) (exponent : Int) : Option Binary64 :=
  if digits = 0 then some (zero negative)
  else
    let size : Int := decimalLength digits + exponent
    if size < -330 then some (zero negative)
    else if 310 < size then none
    else if 0 ≤ exponent then ofRatio? negative (digits * Nat.pow 10 exponent.toNat) 1
    else ofRatio? negative digits (Nat.pow 10 (-exponent).toNat)

end Binary64

end GuardedPlan
