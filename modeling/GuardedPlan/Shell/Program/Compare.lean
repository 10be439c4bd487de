import GuardedPlan.Digest.Sha256
import GuardedPlan.Shell.Program.Sort

/-!
# Programs that compare files

Two files are compared byte by byte or line by line, or by their hashes.
-/

namespace GuardedPlan.Shell

namespace Utility

def cmp : Utility :=
  withOptions { plain := "sl", named := [("silent", 's'), ("quiet", 's'), ("verbose", 'l')] } 2 fun request session =>
    match request.operands with
    | [] => session.misused 2 "missing operand after 'cmp'"
    | first :: rest =>
      let second := rest.headD "-"
      let (a, session) := Session.operand session first
      let (b, session) := Session.operand session second
      match a, b with
      | .error fault, _ => session.refuse 2 (first ++ ": " ++ fault.reason)
      | _, .error fault => session.refuse 2 (second ++ ": " ++ fault.reason)
      | .ok a, .ok b =>
        if a = b then session.finish 0
        else
          let common := ((a.toList.zip b.toList).takeWhile fun (x, y) => x = y).length
          let line := ((a.toList.take common).filter (· = '\n')).length + 1
          let isShort := common = min a.length b.length
          let quiet := request.has 's'
          if quiet then session.finish 1
          else if isShort then
            let shorter := if a.length < b.length then first else second
            (if common = 0 then session.refuse 1 ("EOF on " ++ shorter ++ " which is empty")
              else session.refuse 1 ("EOF on " ++ shorter ++ " after byte " ++ toString common ++ ", in line " ++ toString line))
          else (session.put (first ++ " " ++ second ++ " differ: byte " ++ toString (common + 1) ++ ", line " ++
              toString line ++ "\n")).finish 1

/-- The lines of two sorted files in three columns. -/
def comm : Utility :=
  withOptions { plain := "123" } 1 fun request session =>
    let (found, session) := session.readEach request.operands
    match found with
    | [(_, a), (_, b)] =>
      let rec merge : Nat → List (List Char) → List (List Char) → List (Nat × List Char)
        | 0, _, _ => []
        | _ + 1, [], rest => rest.map fun line => (2, line)
        | _ + 1, rest, [] => rest.map fun line => (1, line)
        | fuel + 1, x :: xs, y :: ys =>
          match compareBy [] x y with
          | .lt => (1, x) :: merge fuel xs (y :: ys)
          | .gt => (2, y) :: merge fuel (x :: xs) ys
          | .eq => (3, x) :: merge fuel xs ys
      let first := Lines.ofText a
      let second := Lines.ofText b
      let rows := merge (first.length + second.length + 1) first second
      let isShown (column : Nat) : Bool := !request.has (Char.ofNat (column + '0'.toNat))
      let lead (column : Nat) : String :=
        String.join (((List.range (column - 1)).map (· + 1)).map fun earlier => if isShown earlier then "\t" else "")
      session.put (String.join ((rows.filter fun (column, _) => isShown column).map fun (column, line) =>
        lead column ++ String.ofList line ++ "\n"))
    | _ => session.finish 1

/-- The lengths of the longest sequences that are common to the ends of two lists, for every end of the second one; the first row is for all of the first list. -/
def commonLengths (first second : List (List Char)) : List (List Nat) :=
  first.foldr (fun line rows =>
    let below := rows.headD (List.replicate (second.length + 1) 0)
    let row := ((second.zip (below.zip (below.drop 1))).foldr (fun (other, here, next) (row : List Nat) =>
      (if other = line then next + 1 else max here (row.headD 0)) :: row) [0])
    row :: rows) [List.replicate (second.length + 1) 0]

/-- A step from one list of lines to another: a line stays, goes or comes. -/
inductive Step where
  | keep (line : List Char)
  | drop (line : List Char)
  | add (line : List Char)

/-- The steps from one list of lines to another that keep as many lines as possible. -/
def steps : Nat → List (List Nat) → List (List Char) → List (List Char) → List Step
  | 0, _, _, _ => []
  | _ + 1, _, [], rest => rest.map .add
  | _ + 1, _, rest, [] => rest.map .drop
  | fuel + 1, rows, a :: first, b :: second =>
    if a = b then .keep a :: steps fuel ((rows.drop 1).map (List.drop 1)) first second
    else
      let here := rows.headD []
      let below := (rows.drop 1).headD []
      if (here.drop 1).headD 0 > below.headD 0 then .add b :: steps fuel (rows.map (List.drop 1)) (a :: first) second
      else .drop a :: steps fuel (rows.drop 1) first (b :: second)

/-- Lines that go and lines that come at one place, with how many lines of both lists are before it. -/
structure Hunk where
  before : Nat
  after : Nat
  gone : List (List Char) := []
  new : List (List Char) := []

def hunks (all : List Step) : List Hunk :=
  let (done, current, _, _) := all.foldl (fun (done, current, a, b) step =>
    let start : Hunk := current.getD ⟨a, b, [], []⟩
    match step with
    | .keep _ => (current.toList ++ done, (none : Option Hunk), a + 1, b + 1)
    | .drop line => (done, some { start with gone := start.gone ++ [line] }, a + 1, b)
    | .add line => (done, some { start with new := start.new ++ [line] }, a, b + 1)) (([] : List Hunk), none, 0, 0)
  (current.toList ++ done).reverse

def Hunk.text (hunk : Hunk) : String :=
  let range (before count : Nat) : String :=
    if count = 0 then toString before
    else if count = 1 then toString (before + 1)
    else toString (before + 1) ++ "," ++ toString (before + count)
  let letter := if hunk.gone.isEmpty then "a" else if hunk.new.isEmpty then "d" else "c"
  let marked (mark : String) (lines : List (List Char)) : String :=
    String.join (lines.map fun line => mark ++ String.ofList line ++ "\n")
  range hunk.before hunk.gone.length ++ letter ++ range hunk.after hunk.new.length ++ "\n" ++ marked "< " hunk.gone ++
    (if letter = "c" then "---\n" else "") ++ marked "> " hunk.new

def diff : Utility :=
  withOptions { plain := "qsuriwbBNac", valued := "U", named := [("brief", 'q'), ("unified", 'u'), ("recursive", 'r')] } 2
    fun request session =>
      match request.operands with
      | [first, second] =>
        let second := if session.isDirectory second && session.isFile first then inside second first else second
        let first := if session.isDirectory first && session.isFile second then inside first second else first
        let (a, session) := Session.operand session first
        let (b, session) := Session.operand session second
        match a, b with
        | .error fault, _ => session.refuse 2 (first ++ ": " ++ fault.reason)
        | _, .error fault => session.refuse 2 (second ++ ": " ++ fault.reason)
        | .ok a, .ok b =>
          let prepared (text : String) : List (List Char) :=
            (Lines.ofText text).map fun line =>
              let line := if request.has 'w' then line.filter fun c => !(c = ' ' || c = '\t') else line
              if request.has 'i' then line.map Char.toLower else line
          let same := if request.has 'w' || request.has 'i' then prepared a = prepared b else a = b
          if same then
            if request.has 's' then (session.finish 0).put ("Files " ++ first ++ " and " ++ second ++ " are identical\n")
            else session.finish 0
          else if request.has 'q' then
            (session.put ("Files " ++ first ++ " and " ++ second ++ " differ\n")).finish 1
          else
            let x := Lines.ofText a
            let y := Lines.ofText b
            let found := hunks (steps (x.length + y.length + 1) (commonLengths x y) x y)
            (session.put (String.join (found.map Hunk.text))).finish 1
      | [] => session.misused 2 "missing operand after 'diff'"
      | [only] => session.misused 2 ("missing operand after " ++ Session.quoted only)
      | _ :: _ :: extra :: _ => session.misused 2 ("extra operand " ++ Session.quoted extra)
where
  /-- The path of a file of the same name in a directory. -/
  inside (directory path : String) : String :=
    (if directory.endsWith "/" then directory else directory ++ "/") ++ lastSegment path

def sha256sum : Utility :=
  withOptions { plain := "bt", named := [("binary", 'b'), ("text", 't')] } 1 fun request session =>
    let (found, session) := session.readEach request.operands
    session.put (String.join (found.map fun (path, text) =>
      String.ofList ((Sha256.hash (Bytes.toContent text).data.toList).flatMap Sha256.hexWord) ++ (if request.has 'b' then " *" else "  ") ++ path ++ "\n"))

end Utility

end GuardedPlan.Shell
