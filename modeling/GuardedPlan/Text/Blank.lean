import GuardedPlan.Text.CharRange

/-!
# Blank characters

Whitespace is the Unicode property White_Space. Trimming, blank lines and the leading token of a command all use this one set.
-/

namespace GuardedPlan.Text

def blankRanges : CharRanges :=
  [(0x9, 0xD), (0x20, 0x20), (0x85, 0x85), (0xA0, 0xA0), (0x1680, 0x1680), (0x2000, 0x200A), (0x2028, 0x2029),
   (0x202F, 0x202F), (0x205F, 0x205F), (0x3000, 0x3000)]

def isBlank (c : Char) : Bool :=
  blankRanges.has c.toNat

/-- Removes the longest suffix whose members satisfy `p`. -/
def dropEndWhile {α : Type} (p : α → Bool) (items : List α) : List α :=
  (items.reverse.dropWhile p).reverse

def trimStart (text : List Char) : List Char :=
  text.dropWhile isBlank

def trimEnd (text : List Char) : List Char :=
  dropEndWhile isBlank text

def trim (text : List Char) : List Char :=
  trimEnd (trimStart text)

def isBlankText (text : List Char) : Bool :=
  text.all isBlank

/-- The first run of characters that are not whitespace, empty for a blank text. -/
def leadingToken (text : String) : String :=
  String.ofList ((trimStart text.toList).takeWhile fun c => !isBlank c)

end GuardedPlan.Text
