import GuardedPlan.Shell.Program.Line

/-!
# Programs that work on columns

Parts of lines are chosen by place or put side by side.
-/

namespace GuardedPlan.Shell

namespace Utility

/-- Ranges of numbers in a list such as `1,3-5,7-`; each range has a first number and maybe a last one. -/
def ranges? (text : String) : Option (List (Nat × Option Nat)) :=
  (text.splitOn ",").mapM fun part =>
    match part.splitOn "-" with
    | [one] => (Lines.count? one).bind fun n => if n = 0 then none else some (n, some n)
    | ["", last] => (Lines.count? last).map fun n => (1, some n)
    | [first, ""] => (Lines.count? first).map fun n => (n, none)
    | [first, last] => (Lines.count? first).bind fun a => (Lines.count? last).bind fun b =>
        if b < a || a = 0 then none else some (a, some b)
    | _ => none

def cut : Utility :=
  withOptions { plain := "snz", valued := "bcfd", named := [("bytes", 'b'), ("characters", 'c'), ("fields", 'f'),
    ("delimiter", 'd'), ("only-delimited", 's'), ("complement", 'n'), ("output-delimiter", 'O')] } 1
    fun request session =>
      match request.options.filter fun (letter, _) => "bcf".toList.contains letter with
      | [] => session.misused 1 "you must specify a list of bytes, characters, or fields"
      | [(kind, list)] =>
        match ranges? list with
        | none => session.misused 1 ("invalid " ++ (if kind = 'f' then "field value " else "byte/character position ") ++
            Session.quoted list)
        | some ranges =>
          let delimiter := ((request.value? 'd').getD "\t").toList
          if delimiter.length > 1 then session.misused 1 "the delimiter must be a single character"
          else
            let separator := delimiter.headD '\x00'
            let isChosen (index : Nat) : Bool :=
              ranges.any fun (first, last) => first ≤ index + 1 && last.all (index + 1 ≤ ·)
            let (found, session) := session.readEach request.operands
            let pick (line : List Char) : Option (List Char) :=
              if kind ≠ 'f' then some ((line.zipIdx.filter fun (_, index) => isChosen index).map Prod.fst)
              else if !line.contains separator then if request.has 's' then none else some line
              else
                let fields := ((line.splitOn separator).zipIdx.filter fun (_, index) => isChosen index).map Prod.fst
                some ([separator].intercalate fields)
            session.put (Lines.toText ((found.flatMap fun (_, text) => Lines.ofText text).filterMap pick))
      | _ => session.misused 1 "only one list may be specified"

/-- Joins lines of files side by side, or the lines of each file in one line. -/
def paste : Utility :=
  withOptions { plain := "sz", valued := "d", named := [("serial", 's'), ("delimiters", 'd')] } 1 fun request session =>
    let (found, session) := session.readEach request.operands
    let signs := ((request.value? 'd').getD "\t").toList
    let rec signsOf : List Char → List (List Char)
      | '\\' :: 'n' :: rest => ['\n'] :: signsOf rest
      | '\\' :: 't' :: rest => ['\t'] :: signsOf rest
      | '\\' :: '0' :: rest => [] :: signsOf rest
      | '\\' :: c :: rest => [c] :: signsOf rest
      | c :: rest => [c] :: signsOf rest
      | [] => []
    let signs := signsOf signs
    let joint (index : Nat) : List Char := if signs.isEmpty then [] else (signs[index % signs.length]?).getD []
    let joined (parts : List (List Char)) : List Char :=
      (parts.zipIdx.map fun (part, index) => if index = 0 then part else joint (index - 1) ++ part).flatten
    let columns := found.map fun (_, text) => Lines.ofText text
    if request.has 's' then session.put (Lines.toText (columns.map joined))
    else
      let height := (columns.map List.length).foldl max 0
      session.put (Lines.toText ((List.range height).map fun row =>
        joined (columns.map fun column => (column[row]?).getD [])))

end Utility

end GuardedPlan.Shell
