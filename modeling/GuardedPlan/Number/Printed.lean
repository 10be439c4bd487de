import GuardedPlan.Number.Shortest

/-!
# Number text

Numbers are written with their shortest digits: positionally while the power of the leading digit is between -5 and 15, always with a point, and otherwise with an exponent that carries its sign and no padding. Scores and thresholds are written with two places, rounded from the exact value.
-/

namespace GuardedPlan.Binary64

def digitChars (n : Nat) : List Char :=
  Nat.toDigits 10 n

def signChars (x : Binary64) : List Char :=
  if x.negative then ['-'] else []

def Decimal.printed (d : Decimal) : List Char :=
  let digits := digitChars d.digits
  let leading : Int := (digits.length : Int) - 1 + d.exponent
  if -5 ≤ leading ∧ leading ≤ 15 then
    if 0 ≤ d.exponent then digits ++ List.replicate d.exponent.toNat '0' ++ ['.', '0']
    else if 0 ≤ leading then
      digits.take (leading.toNat + 1) ++ ['.'] ++ digits.drop (leading.toNat + 1)
    else ['0', '.'] ++ List.replicate ((-leading).toNat - 1) '0' ++ digits
  else
    let fraction := match digits.drop 1 with
      | [] => []
      | rest => '.' :: rest
    digits.take 1 ++ fraction ++ ['e', if leading < 0 then '-' else '+'] ++ digitChars leading.natAbs

/-- The shortest text that reads back as `x`. -/
def printed (x : Binary64) : List Char :=
  signChars x ++ (if x.magnitude = 0 then ['0', '.', '0'] else (shortest x).printed)

/-- The text with two places, a half in the last place going to the even neighbour. -/
def twoPlaces (x : Binary64) : String :=
  let hundredths := roundHalfEven (x.magnitude * 100) one
  let cents := hundredths % 100
  String.ofList (signChars x ++ digitChars (hundredths / 100) ++ ['.'] ++
    (if cents < 10 then ['0'] else []) ++ digitChars cents)

end GuardedPlan.Binary64
