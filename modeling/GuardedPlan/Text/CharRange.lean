/-!
# Character ranges

A property of characters is kept as an ascending list of inclusive code point ranges. The lookup walks the list and stops at the first range that begins past the character, so the common characters at the front are found at once.
-/

namespace GuardedPlan.Text

/-- Inclusive ranges of code points, ascending and disjoint. -/
abbrev CharRanges := List (Nat × Nat)

/-- Whether a code point lies in one of the ranges. -/
def CharRanges.has : CharRanges → Nat → Bool
  | [], _ => false
  | (first, last) :: rest, code => if code < first then false else code ≤ last || has rest code

end GuardedPlan.Text
