import GuardedPlan.Shell.Program.Line

/-!
# Sorting

Lines are put in order by keys, each of which is a part of a line with its own way of comparing; lines that no key tells apart are compared as they are.
-/

namespace GuardedPlan.Shell

namespace Utility

/-- The part of a line that a key of a sort covers: fields and characters from one place to another. -/
structure SortKey where
  first : Nat := 1
  firstChar : Nat := 1
  last : Option Nat := none
  lastChar : Nat := 0
  flags : List Char := []

def SortKey.read? (text : String) : Option SortKey :=
  let place (chars : List Char) : Option (Nat × Nat × List Char) :=
    let field := chars.takeWhile Char.isDigit
    let rest := chars.drop field.length
    (Lines.count? (String.ofList field)).map fun number =>
      match rest with
      | '.' :: more =>
        let inside := more.takeWhile Char.isDigit
        (number, (Lines.count? (String.ofList inside)).getD 0, more.drop inside.length)
      | rest => (number, 0, rest)
  match place text.toList with
  | none => none
  | some (first, firstChar, rest) =>
    let flags := rest.takeWhile Char.isAlpha
    let key : SortKey := { first := first, firstChar := max firstChar 1, flags := flags }
    match rest.drop flags.length with
    | [] => some key
    | ',' :: more =>
      (place more).map fun (last, lastChar, rest) =>
        { key with last := some last, lastChar := lastChar, flags := flags ++ rest.takeWhile Char.isAlpha }
    | _ => none

/-- Splits a line into fields; without a separator a field begins with the blanks in front of it. -/
def sortFields (separator : Option Char) (line : List Char) : List (List Char) :=
  match separator with
  | some c => line.splitOn c
  | none =>
    let isBlank (c : Char) : Bool := c = ' ' || c = '\t'
    let rec collect : List Char → Bool → List Char → List (List Char)
      | current, _, [] => [current.reverse]
      | current, inWord, c :: rest =>
        if isBlank c then
          if inWord then current.reverse :: collect [c] false rest else collect (c :: current) false rest
        else collect (c :: current) true rest
    collect [] false line

def SortKey.part (key : SortKey) (separator : Option Char) (line : List Char) : List Char :=
  let fields := sortFields separator line
  let joint : List Char := separator.elim [] fun c => [c]
  let from? := fields.drop (key.first - 1)
  let skipBlanks (chars : List Char) : List Char :=
    if key.flags.contains 'b' then chars.dropWhile fun c => c = ' ' || c = '\t' else chars
  let cut (chars : List Char) : List Char := (skipBlanks chars).drop (key.firstChar - 1)
  match from?, key.last with
  | [], _ => []
  | first :: rest, none => cut first ++ (rest.flatMap fun field => joint ++ field)
  | first :: rest, some last =>
    if last < key.first then []
    else
      let inside := rest.take (last - key.first)
      match inside.reverse with
      | [] => if key.lastChar = 0 then cut first else cut ((skipBlanks first).take key.lastChar)
      | final :: others =>
        let final := if key.lastChar = 0 then final else final.take key.lastChar
        cut first ++ (others.reverse.flatMap fun field => joint ++ field) ++ joint ++ final

/-- The number at the front of a text, in thousandths of thousandths, so that fractions count. -/
def leadingNumber (chars : List Char) : Int :=
  let chars := chars.dropWhile fun c => c = ' ' || c = '\t'
  let (isNegative, chars) := match chars with
    | '-' :: rest => (true, rest)
    | rest => (false, rest)
  let whole := chars.takeWhile Char.isDigit
  let fraction := match chars.drop whole.length with
    | '.' :: rest => (rest.takeWhile Char.isDigit).take 12
    | _ => []
  let digits := whole ++ fraction ++ List.replicate (12 - fraction.length) '0'
  let size : Nat := digits.foldl (fun n c => n * 10 + (c.toNat - '0'.toNat)) 0
  if isNegative then -(size : Int) else size

def compareBy (flags : List Char) (a b : List Char) : Ordering :=
  if flags.contains 'n' || flags.contains 'g' || flags.contains 'h' then compare (leadingNumber a) (leadingNumber b)
  else
    let prepared (chars : List Char) : List Nat :=
      let chars := if flags.contains 'b' then chars.dropWhile fun c => c = ' ' || c = '\t' else chars
      let chars := if flags.contains 'd' then chars.filter fun c => c.isAlphanum || c = ' ' || c = '\t' else chars
      (if flags.contains 'f' then chars.map Char.toUpper else chars).map Char.toNat
    compare (prepared a) (prepared b)

def sort : Utility :=
  withOptions { plain := "bdfginrRsucCmzhVM", valued := "ktoST", named := [("reverse", 'r'), ("numeric-sort", 'n'),
    ("unique", 'u'), ("key", 'k'), ("field-separator", 't'), ("output", 'o'), ("check", 'c'), ("stable", 's'),
    ("ignore-case", 'f'), ("ignore-leading-blanks", 'b'), ("dictionary-order", 'd'), ("merge", 'm'),
    ("human-numeric-sort", 'h'), ("version-sort", 'V')] } 2 fun request session =>
    let separator := (request.value? 't').bind fun text => text.toList.head?
    let global := ['b', 'd', 'f', 'g', 'h', 'n'].filter request.has
    match (request.values 'k').mapM SortKey.read? with
    | none => session.refuse 2 ("invalid number at field start: invalid count at start of " ++
        Session.quoted ((request.value? 'k').getD ""))
    | some keys =>
      let paths := if request.operands.isEmpty then ["-"] else request.operands
      match paths.find? fun path => path ≠ "-" && !(session.content path).toBool with
      | some path =>
        let reason := match session.content path with
          | .error fault => fault.reason
          | .ok _ => ""
        session.refuse 2 ((if reason = FileFault.isDirectory.reason then "read failed: " else "cannot read: ") ++ path ++
          ": " ++ reason)
      | none =>
        let (found, session) := session.readEach paths
        let byKeys (a b : List Char) : Ordering :=
          if keys.isEmpty then
            let order := compareBy global a b
            if request.has 'r' then order.swap else order
          else
            keys.foldl (fun order key =>
              match order with
              | .eq =>
                let own := key.flags.filter (· ≠ 'r')
                let flags := if key.flags.isEmpty then global else own
                let order := compareBy flags (key.part separator a) (key.part separator b)
                if key.flags.contains 'r' || (key.flags.isEmpty && request.has 'r') then order.swap else order
              | order => order) .eq
        let lastResort (a b : List Char) : Ordering :=
          if request.has 's' || request.has 'u' then .eq
          else
            let order := compareBy [] a b
            if request.has 'r' then order.swap else order
        let isBefore (a b : List Char) : Bool :=
          match byKeys a b with
          | .lt => true
          | .gt => false
          | .eq => lastResort a b ≠ .gt
        let lines := found.flatMap fun (_, text) => Lines.ofText text
        if request.has 'c' || request.has 'C' then
          let wrong := ((lines.zip (lines.drop 1)).zipIdx.find? fun ((a, b), _) =>
            !isBefore a b || (request.has 'u' && byKeys a b = .eq))
          match wrong with
          | none => session.finish 0
          | some ((_, b), index) =>
            if request.has 'C' then session.finish 1
            else session.refuse 1 ((paths.headD "-") ++ ":" ++ toString (index + 2) ++ ": disorder: " ++ String.ofList b)
        else
          let sorted := lines.mergeSort isBefore
          let kept := if request.has 'u' then
              (sorted.foldl (fun (kept : List (List Char)) line =>
                match kept with
                | last :: _ => if byKeys last line = .eq then kept else line :: kept
                | [] => [line]) []).reverse
            else sorted
          match request.value? 'o' with
          | none => session.put (Lines.toText kept)
          | some target =>
            match session.withTree ("open failed: " ++ target)
                (session.tree.write (Bytes.toText target) (Bytes.toContent (Lines.toText kept))) with
            | .ok session => session
            | .error message => session.refuse 2 message

end Utility

end GuardedPlan.Shell
