import GuardedPlan.Number.Binary64

/-!
# Shortest decimal digits

Every binary64 number owns an interval of reals that round to it, ends included when its significand is even. The shortest digits are found by trying decimal grids of 1, 2, … 17 digits: on each, only the two neighbours of the value can lie in the interval, the first grid with a hit wins, and of two hits the nearer one is taken.
-/

namespace GuardedPlan.Binary64

/-- A decimal number `digits * 10 ^ exponent`. -/
structure Decimal where
  digits : Nat
  exponent : Int
deriving DecidableEq, Repr

/-- The power of ten of the leading digit of a positive number of least units. -/
def leadingPower (magnitude : Nat) : Int :=
  if one ≤ magnitude then (decimalLength (magnitude / one) : Int) - 1
  else -(decimalLength ((one + magnitude - 1) / magnitude - 1) : Int)

/-- The neighbour of `x` on the grid of `count` significant digits that lies in its interval, if one does. -/
def onGrid? (x : Binary64) (count : Nat) : Option Decimal :=
  let exponent := leadingPower x.magnitude - (count : Int) + 1
  let up := Nat.pow 10 exponent.toNat
  let down := Nat.pow 10 (-exponent).toNat
  let gap := Nat.pow 2 x.shift
  let lower := 4 * x.magnitude - (if x.significand = Nat.pow 2 52 ∧ 0 < x.shift then gap else 2 * gap)
  let upper := 4 * x.magnitude + 2 * gap
  let even := x.significand % 2 = 0
  let position (digits : Nat) := digits * up * (4 * one)
  let inside (digits : Nat) : Bool :=
    if even then lower * down ≤ position digits && position digits ≤ upper * down
    else lower * down < position digits && position digits < upper * down
  let below := x.magnitude * down / (up * one)
  let above := below + 1
  let exact := 4 * x.magnitude * down
  match inside below, inside above with
  | true, true =>
    let gapBelow := exact - position below
    let gapAbove := position above - exact
    if gapBelow < gapAbove ∨ (gapBelow = gapAbove ∧ below % 2 = 0) then some ⟨below, exponent⟩ else some ⟨above, exponent⟩
  | true, false => some ⟨below, exponent⟩
  | false, true => some ⟨above, exponent⟩
  | false, false => none

/-- Moves trailing zeros of the digits into the exponent, at most `fuel` of them. -/
def Decimal.trimZeros : Nat → Decimal → Decimal
  | 0, d => d
  | fuel + 1, d => if d.digits % 10 = 0 then trimZeros fuel ⟨d.digits / 10, d.exponent + 1⟩ else d

/-- The fewest digits that read back as `x`, and of those the nearest. -/
def shortest (x : Binary64) : Decimal :=
  if x.magnitude = 0 then ⟨0, 0⟩
  else (((List.range 17).findSome? fun n => onGrid? x (n + 1)).getD ⟨0, 0⟩).trimZeros 20

end GuardedPlan.Binary64
