/-!
# Text of bytes

Bytes that are no UTF-8 are shown with a replacement character for each ill-formed piece: the longest start of a character that a wrong byte cuts off, or a single byte that starts none.
-/

namespace GuardedPlan.Text

def isBetween (low high byte : UInt8) : Bool :=
  low ≤ byte && byte ≤ high

/-- The conditions on the bytes that follow a first byte; nothing for a byte that starts no character. -/
def continuation? (first : UInt8) : Option (List (UInt8 → Bool)) :=
  let tail := isBetween 0x80 0xBF
  if first < 0x80 then some []
  else if isBetween 0xC2 0xDF first then some [tail]
  else if first = 0xE0 then some [isBetween 0xA0 0xBF, tail]
  else if first = 0xED then some [isBetween 0x80 0x9F, tail]
  else if isBetween 0xE1 0xEF first then some [tail, tail]
  else if first = 0xF0 then some [isBetween 0x90 0xBF, tail, tail]
  else if isBetween 0xF1 0xF3 first then some [tail, tail, tail]
  else if first = 0xF4 then some [isBetween 0x80 0x8F, tail, tail]
  else none

/-- How many bytes of the front meet the conditions in turn. -/
def matching : List (UInt8 → Bool) → List UInt8 → Nat
  | holds :: conditions, byte :: rest => if holds byte then matching conditions rest + 1 else 0
  | _, _ => 0

/-- The characters of bytes, one piece after another; `fuel` bounds their number. -/
def decodedFrom : Nat → List UInt8 → List Char
  | 0, _ => []
  | _, [] => []
  | fuel + 1, first :: rest =>
    match continuation? first with
    | none => '\uFFFD' :: decodedFrom fuel rest
    | some conditions =>
      let count := matching conditions rest
      let piece := if count = conditions.length then String.fromUTF8? ⟨(first :: rest.take count).toArray⟩ else none
      (piece.getD "\uFFFD").toList ++ decodedFrom fuel (rest.drop count)

def decoded (bytes : ByteArray) : String :=
  match String.fromUTF8? bytes with
  | some text => text
  | none => String.ofList (decodedFrom bytes.size bytes.toList)

end GuardedPlan.Text
