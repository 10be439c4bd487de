import GuardedPlan.Number.Binary64

/-!
# Numbers in a given format

A number with a given count of digits after the point, with an exponent or in the shorter of both forms. The digits are rounded once from the exact value, a half going to the even neighbour.
-/

namespace GuardedPlan.Binary64

/-- Decimal digits of a natural number, at least as many as asked for. -/
def paddedDigits (count n : Nat) : List Char :=
  let digits := Nat.toDigits 10 n
  List.replicate (count - digits.length) '0' ++ digits

/-- The absolute value with a number of digits after the point; `keepsPoint` shows the point even without any. -/
def fixedChars (x : Binary64) (places : Nat) (keepsPoint : Bool) : List Char :=
  let digits := paddedDigits (places + 1) (roundHalfEven (x.magnitude * Nat.pow 10 places) one)
  let whole := digits.take (digits.length - places)
  if places = 0 && !keepsPoint then whole else whole ++ '.' :: digits.drop (digits.length - places)

/-- The decimal exponent of the leading digit, as the number of steps from a lower bound that it takes to pass the value. -/
def leadingExponent (x : Binary64) : Int :=
  if x.magnitude = 0 then 0
  else if one ≤ x.magnitude then (Nat.toDigits 10 (x.magnitude / one)).length - 1
  else
    let reciprocal := (one + x.magnitude - 1) / x.magnitude
    let steps := (Nat.toDigits 10 reciprocal).length
    if Nat.pow 10 (steps - 1) * x.magnitude ≥ one then -((steps : Int) - 1) else -(steps : Int)

/-- The digits of the absolute value, one of them and as many more as asked for, and the exponent of the first. -/
def scientificDigits (x : Binary64) (places : Nat) : List Char × Int :=
  let exponent := leadingExponent x
  let rounded :=
    let shift : Int := places - exponent
    if 0 ≤ shift then roundHalfEven (x.magnitude * Nat.pow 10 shift.toNat) one
    else roundHalfEven x.magnitude (one * Nat.pow 10 (-shift).toNat)
  if Nat.pow 10 (places + 1) ≤ rounded then (Nat.toDigits 10 (rounded / 10), exponent + 1)
  else (paddedDigits (places + 1) rounded, exponent)

/-- An exponent with its sign and at least two digits. -/
def exponentChars (exponent : Int) : List Char :=
  (if exponent < 0 then '-' else '+') :: paddedDigits 2 exponent.natAbs

/-- The absolute value with one digit before the point and an exponent. -/
def scientificChars (x : Binary64) (places : Nat) (keepsPoint : Bool) : List Char :=
  let (digits, exponent) := scientificDigits x places
  let fraction := digits.drop 1
  digits.take 1 ++ (if fraction.isEmpty && !keepsPoint then [] else '.' :: fraction) ++ 'e' :: exponentChars exponent

def withoutZeros (digits : List Char) : List Char :=
  if digits.contains '.' then
    let kept := digits.reverse.dropWhile (· = '0')
    (if kept.head? = some '.' then kept.drop 1 else kept).reverse
  else digits

/-- The absolute value with a number of digits in all, in whichever form suits its size. -/
def generalChars (x : Binary64) (precision : Nat) (keepsZeros : Bool) : List Char :=
  let precision := max precision 1
  let (digits, exponent) := scientificDigits x (precision - 1)
  let shorten (chars : List Char) : List Char := if keepsZeros then chars else withoutZeros chars
  if exponent < -4 ∨ (precision : Int) ≤ exponent then
    let fraction := digits.drop 1
    shorten (digits.take 1 ++ (if fraction.isEmpty && !keepsZeros then [] else '.' :: fraction)) ++
      'e' :: exponentChars exponent
  else shorten (fixedChars x ((precision : Int) - 1 - exponent).toNat keepsZeros)

end GuardedPlan.Binary64
