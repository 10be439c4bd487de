import GuardedPlan.Regular.Parser
import GuardedPlan.Shell.Program.Line

/-!
# Searching lines

The lines of files that hold a match of one of some patterns are printed, counted or only told apart. The status says whether there were any, and errors count more than that.
-/

namespace GuardedPlan.Shell

structure LineSearch where
  patterns : List Regular
  manner : Regular.Manner
  inverted : Bool
  isWhole : Bool
  isWord : Bool

namespace LineSearch

/-- Whether a match covers what the search asks for: all of a line, or whole words. -/
def isWanted (search : LineSearch) (line : List Char) (found : Regular.Found) : Bool :=
  if search.isWhole then found.first = 0 && found.last = line.length
  else if search.isWord then
    !((line.drop (found.first - 1)).head?.any fun c => 0 < found.first && Regular.isWordChar c) &&
      !((line.drop found.last).head?.any Regular.isWordChar)
  else true

/-- The expression of a pattern with what the search asks for around it. -/
def framed (search : LineSearch) (pattern : Regular) : Regular :=
  if search.isWhole then .both .start (.both pattern .finish) else pattern

/-- The matches of a search in a line, from left to right. -/
def matchesIn (search : LineSearch) (line : List Char) : List Regular.Found :=
  (search.patterns.flatMap fun pattern =>
    (Regular.all search.manner (search.framed pattern) line).filter (search.isWanted line))

def selects (search : LineSearch) (line : List Char) : Bool :=
  (!(search.matchesIn line).isEmpty) != search.inverted

/-- Matches from left to right, none of which overlaps one before it. -/
def apart (matched : List Regular.Found) : List Regular.Found :=
  let sorted := matched.mergeSort fun a b => a.first < b.first || (a.first = b.first && b.last ≤ a.last)
  (sorted.foldl (fun (kept : List Regular.Found × Nat) found =>
    if found.first < kept.2 then kept else (found :: kept.1, found.last)) ([], 0)).1.reverse

end LineSearch

namespace Utility

def grepOptions : OptionTable :=
  { plain := "EFGPivwxclLnoqsHhrRaIUbyzZ", valued := "efmABCD", named := [("extended-regexp", 'E'),
      ("fixed-strings", 'F'), ("basic-regexp", 'G'), ("ignore-case", 'i'), ("invert-match", 'v'), ("word-regexp", 'w'),
      ("line-regexp", 'x'), ("count", 'c'), ("files-with-matches", 'l'), ("files-without-match", 'L'),
      ("line-number", 'n'), ("only-matching", 'o'), ("quiet", 'q'), ("silent", 'q'), ("no-messages", 's'),
      ("with-filename", 'H'), ("no-filename", 'h'), ("recursive", 'r'), ("regexp", 'e'), ("file", 'f'),
      ("max-count", 'm'), ("after-context", 'A'), ("before-context", 'B'), ("context", 'C'), ("color", 'U'),
      ("text", 'a')] }

def filesUnder (session : Session) (path : String) : List String :=
  match session.tree.node (Bytes.toText path) with
  | .ok (.directory entries) =>
    ((FileNode.directory entries).listing []).filterMap fun (place, entry) =>
      match entry with
      | .file .. => some ((if path.endsWith "/" then path else path ++ "/") ++ Bytes.ofText ("/".intercalate place))
      | .directory => none
  | _ => [path]

/-- What a search prints of one file: the number of lines selected, and the text. -/
def grepText (search : LineSearch) (request : Request) (shown : String) (text : String) : Nat × String :=
  let numberOf (letter : Char) : Option Nat := (request.value? letter).bind Lines.count?
  let lines := (Lines.ofText text).zipIdx
  let chosen := lines.filter fun (line, _) => search.selects line
  let chosen := match numberOf 'm' with
    | some most => chosen.take most
    | none => chosen
  let lead (sign : String) (index : Nat) : String :=
    (if shown = "" then "" else shown ++ sign) ++ if request.has 'n' then toString (index + 1) ++ sign else ""
  let around := (numberOf 'C').getD 0
  let before := (numberOf 'B').getD around
  let after := (numberOf 'A').getD around
  let output :=
    if request.has 'o' then
      String.join (chosen.map fun (line, index) =>
        String.join (((LineSearch.apart (search.matchesIn line)).filter fun found => found.first < found.last).map
          fun found => lead ":" index ++ String.ofList (found.text line) ++ "\n"))
    else if before = 0 && after = 0 then
      String.join (chosen.map fun (line, index) => lead ":" index ++ String.ofList line ++ "\n")
    else
      let isChosen (index : Nat) : Bool := chosen.any fun (_, other) => other = index
      let isNear (index : Nat) : Bool :=
        chosen.any fun (_, other) => (other ≤ index && index ≤ other + after) || (index ≤ other && other ≤ index + before)
      let near := lines.filter fun (_, index) => isNear index
      (near.foldl (fun (output, last) (line, index) =>
        let gap := match last with
          | some last => if last + 1 < index then "--\n" else ""
          | none => ""
        (output ++ gap ++ lead (if isChosen index then ":" else "-") index ++ String.ofList line ++ "\n", some index))
        ("", (none : Option Nat))).1
  (chosen.length, output)

def grep : Utility :=
  withOptions grepOptions 2 fun request session =>
    let listed := request.values 'f'
    let (found, session) := if listed.isEmpty then ([], session.finish 1) else session.readEach listed
    let given := request.values 'e' ++ found.flatMap fun (_, text) => (Lines.ofText text).map String.ofList
    let hasPatterns := !(request.values 'e').isEmpty || !listed.isEmpty
    let (given, operands) := match hasPatterns, request.operands with
      | false, first :: rest => ([first], rest)
      | _, operands => (given, operands)
    if !hasPatterns && request.operands.isEmpty then
      (session.complain "Usage: grep [OPTION]... PATTERNS [FILE]...\nTry 'grep --help' for more information.").finish 2
    else
      let texts := given.flatMap fun text => text.toList.splitOn '\n'
      let isExtended := session.name = "egrep" || request.has 'E' || request.has 'P'
      let isPlain := session.name = "fgrep" || request.has 'F'
      match texts.mapM fun text => if isPlain then .ok (Regular.ofText text) else Regular.read isExtended text with
      | .error fault => session.refuse 2 fault.message
      | .ok patterns =>
        let search : LineSearch :=
          { patterns := patterns, manner := { ignoresCase := request.has 'i' || request.has 'y' },
            inverted := request.has 'v', isWhole := request.has 'x', isWord := request.has 'w' }
        let descends := request.has 'r' || request.has 'R'
        let starts := if operands.isEmpty then [if descends then "." else "-"] else operands
        let paths := if descends then starts.flatMap (filesUnder session) else starts
        let paths := if descends && operands.isEmpty then
            paths.map fun path => if path.startsWith "./" then String.ofList (path.toList.drop 2) else path
          else paths
        let names := request.has 'H' || ((operands.length > 1 || descends) && !request.has 'h')
        let (session, any, failed) := paths.foldl (fun (session, any, failed) path =>
          if request.has 'q' && any then (session, any, failed)
          else
            match Session.operand session path with
            | (.error fault, session) =>
              let session := if request.has 's' then session else session.warn (path ++ ": " ++ fault.reason)
              (session, any, true)
            | (.ok text, session) =>
              let label := if path = "-" then "(standard input)" else path
              let (count, output) := grepText search request (if names then label else "") text
              let isBinary := text.toList.contains '\x00' && !request.has 'a'
              let any := if request.has 'L' then any || count = 0 else any || count > 0
              let session :=
                if request.has 'q' then session
                else if request.has 'l' then if count > 0 then session.put (label ++ "\n") else session
                else if request.has 'L' then if count = 0 then session.put (label ++ "\n") else session
                else if request.has 'c' then
                  session.put ((if names then label ++ ":" else "") ++ toString count ++ "\n")
                else if isBinary then
                  if count > 0 then session.put ("Binary file " ++ label ++ " matches\n") else session
                else session.put output
              (session, any, failed)) (session, false, false)
        if failed && !(request.has 'q' && any) then session.finish 2 else session.finish (if any then 0 else 1)

end Utility

end GuardedPlan.Shell
