/-!
# Byte patterns

Regular patterns over bytes, with repetition of single bytes only. A pattern is matched by its partial derivatives: after each byte there is a finite list of patterns, one of which the remaining bytes have to match. The list never holds a pattern twice, so that matching does not blow up.
-/

namespace GuardedPlan

/-- A set of bytes: those inside some inclusive ranges, or those outside. -/
structure ByteSet where
  negated : Bool
  ranges : List (UInt8 × UInt8)
deriving DecidableEq, Repr

namespace ByteSet

def has (set : ByteSet) (byte : UInt8) : Bool :=
  (set.ranges.any fun range => range.1 ≤ byte && byte ≤ range.2) != set.negated

def all : ByteSet := ⟨true, []⟩

def only (byte : UInt8) : ByteSet := ⟨false, [(byte, byte)]⟩

def slashByte : UInt8 := 0x2F

def segment : ByteSet := ⟨true, [(slashByte, slashByte)]⟩

end ByteSet

inductive BytePattern where
  | empty
  | one (set : ByteSet)
  | many (set : ByteSet)
  | both (first second : BytePattern)
  | either (left right : BytePattern)
deriving DecidableEq, Repr

namespace BytePattern

inductive Denotes : BytePattern → List UInt8 → Prop where
  | empty : Denotes empty []
  | one {set : ByteSet} {byte : UInt8} : set.has byte = true → Denotes (one set) [byte]
  | many {set : ByteSet} {bytes : List UInt8} : (∀ byte ∈ bytes, set.has byte = true) → Denotes (many set) bytes
  | both {first second : BytePattern} {left right : List UInt8} :
      Denotes first left → Denotes second right → Denotes (both first second) (left ++ right)
  | left {left right : BytePattern} {bytes : List UInt8} : Denotes left bytes → Denotes (either left right) bytes
  | right {left right : BytePattern} {bytes : List UInt8} : Denotes right bytes → Denotes (either left right) bytes

def isNullable : BytePattern → Bool
  | empty => true
  | one _ => false
  | many _ => true
  | both first second => first.isNullable && second.isNullable
  | either left right => left.isNullable || right.isNullable

def followedBy (first second : BytePattern) : BytePattern :=
  match first with
  | empty => second
  | _ => both first second

/-- The patterns of which one has to match what follows a byte. -/
def after (byte : UInt8) : BytePattern → List BytePattern
  | empty => []
  | one set => if set.has byte then [empty] else []
  | many set => if set.has byte then [many set] else []
  | both first second =>
    (after byte first).map (fun rest => rest.followedBy second) ++
      (if first.isNullable then after byte second else [])
  | either left right => after byte left ++ after byte right

def anyMatches (states : List BytePattern) : List UInt8 → Bool
  | [] => states.any isNullable
  | byte :: rest => anyMatches (states.flatMap (after byte)).eraseDups rest

def accepts (pattern : BytePattern) (bytes : List UInt8) : Bool :=
  anyMatches [pattern] bytes

def byte (value : UInt8) : BytePattern :=
  one (ByteSet.only value)

def sequence : List BytePattern → BytePattern
  | [] => empty
  | [last] => last
  | first :: rest => both first (sequence rest)

/-- A choice of patterns; nothing to choose from means no bytes. -/
def choice : List BytePattern → BytePattern
  | [] => empty
  | [last] => last
  | first :: rest => either first (choice rest)

end BytePattern

end GuardedPlan
