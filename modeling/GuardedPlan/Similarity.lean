import GuardedPlan.Number.Binary64
import GuardedPlan.Text.Alphanumeric
import GuardedPlan.Text.Lines
import GuardedPlan.Text.Lowercase

/-!
# Text similarity

A score is the larger of two set ratios over normalized text: tokens shared among all tokens, and twice the bigrams shared among all bigrams. A document is scored as a whole and paragraph by paragraph, and the best score counts, so that a matching paragraph in a long file is not diluted. Scores are exact fractions; they become floating-point numbers only when they are shown or compared with a threshold.
-/

namespace GuardedPlan

/-- A fraction between zero and one; nothing out of nothing counts as zero. -/
structure Score where
  part : Nat
  whole : Nat
deriving DecidableEq, Repr

namespace Score

def none : Score := ⟨0, 1⟩

def full : Score := ⟨1, 1⟩

/-- A fraction with the empty whole read as no similarity. -/
def ofCounts (part whole : Nat) : Score :=
  if whole = 0 then none else ⟨part, whole⟩

def le (a b : Score) : Bool :=
  a.part * b.whole ≤ b.part * a.whole

def max (a b : Score) : Score :=
  if a.le b then b else a

def toBinary64 (score : Score) : Binary64 :=
  (Binary64.ofRatio? false score.part score.whole).getD (Binary64.zero false)

/-- Whether the shown value of the score reaches a threshold. -/
def reaches (score : Score) (threshold : Binary64) : Bool :=
  threshold.le score.toBinary64

end Score

namespace Similarity

/-- Keeps letters and numbers in lower case and turns each run of white space between them into one space; `pending` says that white space was read since the last character kept, `started` that one was kept. -/
def normalizeFrom (started pending : Bool) : List Char → List Char
  | [] => []
  | c :: rest =>
    if Text.isBlank c then normalizeFrom started true rest
    else if Text.isAlphanumeric c then
      (if pending && started then [' '] else []) ++ Text.lowercaseChar c ++ normalizeFrom true false rest
    else normalizeFrom started pending rest

def normalize (text : List Char) : List Char :=
  normalizeFrom false false text

/-- The distinct words of a normalized text. -/
def tokens (normalized : List Char) : List (List Char) :=
  ((normalized.splitOn ' ').filter fun token => !token.isEmpty).eraseDups

/-- The distinct pairs of neighbouring characters. -/
def bigrams (normalized : List Char) : List (Char × Char) :=
  (normalized.zip (normalized.drop 1)).eraseDups

/-- How many members of the first list are in the second. -/
def shared {α : Type} [BEq α] (a b : List α) : Nat :=
  (a.filter b.contains).length

/-- The tokens two normalized texts share, among all their tokens. -/
def jaccard (a b : List Char) : Score :=
  let a := tokens a
  let b := tokens b
  Score.ofCounts (shared a b) (a.length + b.length - shared a b)

/-- Twice the bigrams two normalized texts share, among the bigrams of both. -/
def dice (a b : List Char) : Score :=
  let a := bigrams a
  let b := bigrams b
  Score.ofCounts (2 * shared a b) (a.length + b.length)

def score (a b : List Char) : Score :=
  let a := normalize a
  let b := normalize b
  if a.isEmpty || b.isEmpty then Score.none
  else if a = b then Score.full
  else (jaccard a b).max (dice a b)

/-- The best score of the expected text against the document or one of its paragraphs. -/
def bestScore (document expected : List Char) : Score :=
  (Text.paragraphs document).foldl (fun best paragraph => best.max (score paragraph expected))
    (score document expected)

end Similarity

end GuardedPlan
