import GuardedPlan.Text.Blank

/-!
# Lines and paragraphs

Lines end after each line feed. A paragraph is a longest run of lines that are not blank.
-/

namespace GuardedPlan.Text

/-- The lines of a text, each with its line feed. -/
def linesWithEnds : List Char → List (List Char)
  | [] => []
  | '\n' :: rest => ['\n'] :: linesWithEnds rest
  | c :: rest =>
    match linesWithEnds rest with
    | [] => [[c]]
    | line :: lines => (c :: line) :: lines

/-- A line without its line feed, nor a carriage return before it. -/
def withoutLineEnd (line : List Char) : List Char :=
  match line.reverse with
  | '\n' :: '\r' :: body => body.reverse
  | '\n' :: body => body.reverse
  | _ => line

def lines (text : List Char) : List (List Char) :=
  (linesWithEnds text).map withoutLineEnd

/-- The length of a text in the bytes that offsets into a document count. -/
def byteLength (text : List Char) : Nat :=
  (String.ofList text).utf8ByteSize

/-- The byte offsets between which the runs of lines that are not blank stand. The run being read begins at `start`, the next line at `offset`. -/
def runOffsets (start : Option Nat) (offset : Nat) : List (List Char) → List (Nat × Nat)
  | [] => start.toList.map fun first => (first, offset)
  | line :: rest =>
    let next := offset + byteLength line
    if isBlankText line then (start.toList.map fun first => (first, offset)) ++ runOffsets none next rest
    else runOffsets (some (start.getD offset)) next rest

/-- The part of a document between two byte offsets. -/
def slice (document : String) (first last : Nat) : List Char :=
  (String.Pos.Raw.extract document ⟨first⟩ ⟨last⟩).toList

/-- The paragraphs of a text, trimmed. -/
def paragraphs (text : List Char) : List (List Char) :=
  let document := String.ofList text
  (runOffsets none 0 (linesWithEnds text)).map fun run => trim (slice document run.1 run.2)

end GuardedPlan.Text
