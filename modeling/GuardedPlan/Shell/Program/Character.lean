import GuardedPlan.Shell.Program.Line

/-!
# Programs that work on characters

Sets of characters are written with escapes, ranges and named classes; what is read is changed character by character.
-/

namespace GuardedPlan.Shell

namespace Utility

/-- The characters of a set of `tr`, from its escapes, ranges and classes. -/
def characterSet : Nat → List Char → List Char
  | 0, _ => []
  | _ + 1, [] => []
  | fuel + 1, '[' :: ':' :: rest =>
    let name := String.ofList (rest.takeWhile (· ≠ ':'))
    let after := (rest.drop name.length).drop 2
    let inClass? : Option (Char → Bool) := match name with
      | "alpha" => some Char.isAlpha
      | "digit" => some Char.isDigit
      | "alnum" => some Char.isAlphanum
      | "upper" => some Char.isUpper
      | "lower" => some Char.isLower
      | "space" => some fun c => c = ' ' || ('\t' ≤ c && c ≤ '\r')
      | "blank" => some fun c => c = ' ' || c = '\t'
      | "punct" => some fun c => '!' ≤ c && c ≤ '~' && !c.isAlphanum
      | "print" => some fun c => ' ' ≤ c && c ≤ '~'
      | "graph" => some fun c => '!' ≤ c && c ≤ '~'
      | "cntrl" => some fun c => c < ' ' || c = '\x7f'
      | "xdigit" => some fun c => c.isDigit || ('a' ≤ c && c ≤ 'f') || ('A' ≤ c && c ≤ 'F')
      | _ => none
    match inClass? with
    | some inClass => ((List.range 256).map Char.ofNat).filter inClass ++ characterSet fuel after
    | none => '[' :: characterSet fuel (':' :: rest)
  | fuel + 1, input =>
    let isOctal (c : Char) : Bool := '0' ≤ c && c ≤ '7'
    let single (input : List Char) : Char × List Char := match input with
      | '\\' :: c :: rest =>
        if isOctal c then
          let digits := ((c :: rest).take 3).takeWhile isOctal
          (Char.ofNat (digits.foldl (fun n c => n * 8 + (c.toNat - '0'.toNat)) 0 % 256), (c :: rest).drop digits.length)
        else
          (match c with
            | 'n' => '\n'
            | 't' => '\t'
            | 'r' => '\r'
            | 'a' => '\x07'
            | 'b' => '\x08'
            | 'f' => '\x0c'
            | 'v' => '\x0b'
            | c => c, rest)
      | c :: rest => (c, rest)
      | [] => ('\x00', [])
    let (first, rest) := single input
    match rest with
    | '-' :: c :: more =>
      let (last, after) := single (c :: more)
      (List.range (last.toNat + 1 - first.toNat)).map (fun n => Char.ofNat (first.toNat + n)) ++ characterSet fuel after
    | rest => first :: characterSet fuel rest

def tr : Utility :=
  withOptions { plain := "cCdst", named := [("complement", 'c'), ("delete", 'd'), ("squeeze-repeats", 's'),
    ("truncate-set1", 't')], mixes := false } 1 fun request session =>
    let read (text : String) : List Char := characterSet (text.length + 1) text.toList
    let complements := request.has 'c' || request.has 'C'
    let isIn (set : List Char) (c : Char) : Bool := set.contains c != complements
    let squeeze (isSqueezed : Char → Bool) (chars : List Char) : List Char :=
      (chars.foldl (fun (kept : List Char) c => if isSqueezed c && kept.head? = some c then kept else c :: kept) []).reverse
    let run (change : List Char → List Char) : Session :=
      let (bytes, session) := session.readAll
      (session.finish 0).put (String.ofList (change bytes.toList))
    let translate (first second : List Char) (chars : List Char) : List Char :=
      let last := second.getLast?
      let set := if complements then ((List.range 256).map Char.ofNat).filter fun c => !first.contains c else first
      let second := if request.has 't' then second else second ++ List.replicate (set.length - second.length) (last.getD '\x00')
      let table := (set.zip second).reverse
      chars.map fun c => (table.lookup c).getD c
    match request.operands, request.has 'd', request.has 's' with
    | [], _, _ => session.misused 1 "missing operand"
    | [only], true, false => run fun chars => chars.filter fun c => !isIn (read only) c
    | [only], false, true => run (squeeze (isIn (read only)))
    | [only], _, _ =>
      (session.warn ("missing operand after " ++ Session.quoted only)).complain
        ((if request.has 'd' then "Two strings must be given when both deleting and squeezing repeats.\n"
          else "Two strings must be given when translating.\n") ++ "Try 'tr --help' for more information.") |>.finish 1
    | [first, second], true, true => run fun chars =>
        squeeze (read second).contains (chars.filter fun c => !isIn (read first) c)
    | [_, second], true, false =>
      (session.warn ("extra operand " ++ Session.quoted second)).complain
        ("Only one string may be given when deleting without squeezing repeats.\n" ++
          "Try 'tr --help' for more information.") |>.finish 1
    | [first, second], false, squeezes =>
      if second = "" then session.refuse 1 "when not truncating set1, string2 must be non-empty"
      else run fun chars =>
        let changed := translate (read first) (read second) chars
        if squeezes then squeeze (read second).contains changed else changed
    | _ :: _ :: extra :: _, _, _ => session.misused 1 ("extra operand " ++ Session.quoted extra)

end Utility

end GuardedPlan.Shell
