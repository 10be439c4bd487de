import GuardedPlan.Glob.BytePattern

/-!
# Wildcards

The wildcards of shells and of version control: a star for any bytes, a question mark for one byte and brackets for one byte out of a set. Each byte of a pattern is marked as literal or not, so that quotes and backslashes are dealt with by whoever reads the pattern. Options say whether a star passes slashes and what a bracket without an end means.
-/

namespace GuardedPlan

namespace Wildcard

/-- A byte of a pattern, and whether it only stands for itself. -/
structure Mark where
  byte : UInt8
  isLiteral : Bool
deriving DecidableEq, Repr

/-- What a pattern may do besides. -/
structure Options where
  passesSlash : Bool := true
  hasDoubleStar : Bool := false
  keepsOpenBracket : Bool := true

def ascii (c : Char) : UInt8 :=
  c.toNat.toUInt8

/-- Whether a mark is a given character with its meaning. -/
def Mark.isSign (mark : Mark) (c : Char) : Bool :=
  !mark.isLiteral && mark.byte == ascii c

/-- The marks of a text that has nothing but literal bytes. -/
def literals (bytes : List UInt8) : List Mark :=
  bytes.map fun byte => ⟨byte, true⟩

/-- The marks of a text in which a backslash makes the next byte literal. -/
def unescaped : List UInt8 → List Mark
  | 0x5C :: byte :: rest => ⟨byte, true⟩ :: unescaped rest
  | byte :: rest => ⟨byte, false⟩ :: unescaped rest
  | [] => []

/-- The ranges of a named class of ASCII characters. -/
def namedClass? (name : String) : Option (List (UInt8 × UInt8)) :=
  let range (first last : Char) : UInt8 × UInt8 := (ascii first, ascii last)
  let digits := range '0' '9'
  let uppers := range 'A' 'Z'
  let lowers := range 'a' 'z'
  match name with
  | "alpha" => some [uppers, lowers]
  | "digit" => some [digits]
  | "alnum" => some [digits, uppers, lowers]
  | "upper" => some [uppers]
  | "lower" => some [lowers]
  | "space" => some [(9, 13), (32, 32)]
  | "blank" => some [(9, 9), (32, 32)]
  | "punct" => some [(33, 47), (58, 64), (91, 96), (123, 126)]
  | "print" => some [(32, 126)]
  | "graph" => some [(33, 126)]
  | "cntrl" => some [(0, 31), (127, 127)]
  | "xdigit" => some [digits, range 'A' 'F', range 'a' 'f']
  | _ => none

/-- The ranges of a named class at the front of the marks after `[:`, and the marks after its `:]`. -/
def takeNamedClass? (marks : List Mark) : Option (List (UInt8 × UInt8) × List Mark) :=
  let name := marks.takeWhile fun mark => 97 ≤ mark.byte && mark.byte ≤ 122
  match marks.drop name.length with
  | colon :: close :: rest =>
    if colon.isSign ':' && close.isSign ']' then
      (namedClass? (String.ofList (name.map fun mark => Char.ofNat mark.byte.toNat))).map fun ranges => (ranges, rest)
    else none
  | _ => none

/-- Reads the members of a bracket up to its end; nothing is answered when the end is missing. -/
def members : Nat → Bool → List Mark → Option (List (UInt8 × UInt8) × List Mark)
  | 0, _, _ => none
  | _ + 1, _, [] => none
  | fuel + 1, isFirst, mark :: rest =>
    if mark.isSign ']' && !isFirst then some ([], rest)
    else
      let named? :=
        match mark.isSign '[', rest with
        | true, colon :: after => if colon.isSign ':' then takeNamedClass? after else none
        | _, _ => none
      match named?, rest with
      | some (ranges, rest), _ => (members fuel false rest).map fun (more, rest) => (ranges ++ more, rest)
      | none, dash :: last :: after =>
        if dash.isSign '-' && !last.isSign ']' then
          (members fuel false after).map fun (more, rest) => ((mark.byte, last.byte) :: more, rest)
        else (members fuel false rest).map fun (more, rest) => ((mark.byte, mark.byte) :: more, rest)
      | none, rest => (members fuel false rest).map fun (more, rest) => ((mark.byte, mark.byte) :: more, rest)

def bracket? (marks : List Mark) : Option (ByteSet × List Mark) :=
  let negated := marks.head?.any fun mark => mark.isSign '!' || mark.isSign '^'
  let marks := if negated then marks.drop 1 else marks
  (members (marks.length + 1) true marks).map fun (ranges, rest) => (⟨negated, ranges⟩, rest)

def withoutSlash (set : ByteSet) : ByteSet :=
  if set.negated then ⟨true, (ByteSet.slashByte, ByteSet.slashByte) :: set.ranges⟩
  else
    ⟨false, set.ranges.flatMap fun (first, last) =>
      if first ≤ ByteSet.slashByte && ByteSet.slashByte ≤ last then
        (if first < ByteSet.slashByte then [(first, ByteSet.slashByte - 1)] else []) ++
          (if ByteSet.slashByte < last then [(ByteSet.slashByte + 1, last)] else [])
      else [(first, last)]⟩

def Mark.isSlash (mark : Mark) : Bool :=
  mark.byte == ByteSet.slashByte

/-- The pattern of marks, as many as `fuel`. `opens` says that a path segment starts here. -/
def patternFrom (options : Options) : Nat → Bool → List Mark → BytePattern
  | 0, _, _ => .empty
  | _ + 1, _, [] => .empty
  | fuel + 1, opens, mark :: rest =>
    let any := if options.passesSlash then ByteSet.all else ByteSet.segment
    if mark.isSign '*' then
      let after := rest.dropWhile (·.isSign '*')
      let isDouble := options.hasDoubleStar && opens && after.length < rest.length && after.head?.all Mark.isSlash
      match isDouble, after with
      | true, [] => .many ByteSet.all
      | true, _ :: inside =>
        let below := patternFrom options fuel true inside
        .either below (.both (.many ByteSet.all) (.both (.byte ByteSet.slashByte) below))
      | false, after => .both (.many any) (patternFrom options fuel false after)
    else if mark.isSign '?' then .both (.one any) (patternFrom options fuel false rest)
    else if mark.isSign '[' then
      match bracket? rest, options.keepsOpenBracket with
      | some (set, rest), _ =>
        .both (.one (if options.passesSlash then set else withoutSlash set)) (patternFrom options fuel false rest)
      | none, true => .both (.byte mark.byte) (patternFrom options fuel false rest)
      | none, false => .one ⟨false, []⟩
    else .both (.byte mark.byte) (patternFrom options fuel mark.isSlash rest)

def pattern (options : Options) (marks : List Mark) : BytePattern :=
  patternFrom options marks.length true marks

/-- Whether marks hold anything but literal bytes. -/
def isPlain (marks : List Mark) : Bool :=
  marks.all fun mark => !(mark.isSign '*' || mark.isSign '?' || mark.isSign '[')

end Wildcard

end GuardedPlan
