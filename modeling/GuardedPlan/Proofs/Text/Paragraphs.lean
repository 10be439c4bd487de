import GuardedPlan.Proofs.Text.Lines
import Mathlib.Data.String.Basic

/-!
# Paragraphs

A paragraph is a longest run of lines that are not blank. Paragraphs are cut out of a document at byte offsets that are added up line by line; each offset stands between two characters, each run is cut out once, and nothing else is.
-/

namespace GuardedPlan.Text

/-! ### Runs -/

/-- There is a line of that number and it is not blank. -/
def Filled (lines : List (List Char)) (index : Nat) : Prop :=
  ∃ line ∈ lines[index]?, ¬ Blank line

/-- The lines from `first` up to `last` are a longest run of lines that are not blank. -/
structure IsRun (lines : List (List Char)) (first last : Nat) : Prop where
  lt : first < last
  filled : ∀ index, first ≤ index → index < last → Filled lines index
  left : ∀ index, index + 1 = first → ¬ Filled lines index
  right : ¬ Filled lines last

variable {lines : List (List Char)} {first last index : Nat}

theorem Filled.lt_length (h : Filled lines index) : index < lines.length := by
  obtain ⟨line, hline, -⟩ := h
  exact (List.getElem?_eq_some_iff.1 hline).1

namespace IsRun

theorem last_le_length (h : IsRun lines first last) : last ≤ lines.length := by
  have hlt := h.lt
  have hlast := (h.filled (last - 1) (by omega) (by omega)).lt_length
  omega

theorem eq_of_overlap (h : IsRun lines first last) {other stop : Nat} (hother : IsRun lines other stop)
    (hbefore : first < stop) (hafter : other < last) : first = other ∧ last = stop := by
  have hfirst : first = other := by
    rcases Nat.lt_trichotomy first other with hlt | heq | hlt
    · exact absurd (h.filled (other - 1) (by omega) (by omega)) (hother.left (other - 1) (by omega))
    · exact heq
    · exact absurd (hother.filled (first - 1) (by omega) (by omega)) (h.left (first - 1) (by omega))
  have hlast : last = stop := by
    rcases Nat.lt_trichotomy last stop with hlt | heq | hlt
    · exact absurd (hother.filled last (by omega) hlt) h.right
    · exact heq
    · exact absurd (h.filled stop (by omega) hlt) hother.right
  exact ⟨hfirst, hlast⟩

end IsRun

theorem isRun_append {before run after : List (List Char)} (hbefore : ∀ line ∈ before.getLast?, Blank line)
    (hsome : run ≠ []) (hrun : ∀ line ∈ run, ¬ Blank line) (hafter : ∀ line ∈ after.head?, Blank line) :
    IsRun (before ++ run ++ after) before.length (before.length + run.length) := by
  constructor
  · have hlength := List.length_pos_iff.2 hsome
    omega
  · intro index hfirst hlast
    have hindex : index - before.length < run.length := by omega
    refine ⟨run[index - before.length], ?_, hrun _ (List.getElem_mem hindex)⟩
    rw [List.append_assoc, List.getElem?_append_right hfirst, List.getElem?_append_left hindex]
    exact List.getElem?_eq_getElem hindex
  · rintro index hindex ⟨line, hline, hfilled⟩
    refine hfilled (hbefore line ?_)
    rw [List.append_assoc, List.getElem?_append_left (by omega)] at hline
    rw [List.getLast?_eq_getElem?, ← hindex]
    exact hline
  · rintro ⟨line, hline, hfilled⟩
    refine hfilled (hafter line ?_)
    rw [List.getElem?_append_right (by rw [List.length_append]), List.length_append, Nat.sub_self] at hline
    rw [List.head?_eq_getElem?]
    exact hline

/-! ### Offsets -/

/-- The text of the lines from `first` up to `last`. -/
def runText (lines : List (List Char)) (first last : Nat) : List Char :=
  ((lines.take last).drop first).flatten

/-- The byte offset at which a line begins. -/
def offsetAt (lines : List (List Char)) (index : Nat) : Nat :=
  byteLength (lines.take index).flatten

theorem byteLength_append (text more : List Char) : byteLength (text ++ more) = byteLength text + byteLength more := by
  rw [byteLength, String.ofList_append, String.utf8ByteSize_append]
  rfl

theorem offsetAt_succ {line : List Char} (h : lines[index]? = some line) :
    offsetAt lines (index + 1) = offsetAt lines index + byteLength line := by
  rw [offsetAt, List.take_add_one, h, List.flatten_append, byteLength_append]
  simp [offsetAt]

theorem flatten_split (lines : List (List Char)) (hle : first ≤ last) :
    lines.flatten = (lines.take first).flatten ++ runText lines first last ++ (lines.drop last).flatten := by
  have htake : (lines.take last).take first = lines.take first := by rw [List.take_take, Nat.min_eq_left hle]
  rw [runText, ← List.flatten_append, ← htake, List.take_append_drop, ← List.flatten_append, List.take_append_drop]

theorem slice_offsetAt {document : List Char} (h : Lines document lines) (hle : first ≤ last) :
    slice (String.ofList document) (offsetAt lines first) (offsetAt lines last) = runText lines first last := by
  have hlast : (lines.take last).flatten = (lines.take first).flatten ++ runText lines first last := by
    have hsplit := flatten_split (lines.take last) hle
    rwa [runText, List.take_take, List.take_take, Nat.min_eq_left hle, Nat.min_self, List.drop_take_self,
      List.flatten_nil, List.append_nil] at hsplit
  have hoffset : offsetAt lines last = offsetAt lines first + byteLength (runText lines first last) := by
    rw [offsetAt, hlast, byteLength_append]
    rfl
  rw [slice, hoffset, ← h.flatten, flatten_split lines hle]
  simp only [offsetAt, byteLength, String.utf8ByteSize_ofList]
  rw [String.extract_of_valid, String.toList_ofList]

theorem isValid_offsetAt {document : List Char} (h : Lines document lines) (index : Nat) :
    String.Pos.Raw.IsValid (String.ofList document) ⟨offsetAt lines index⟩ := by
  apply String.Pos.Raw.isValid_iff_exists_append.2
  refine ⟨String.ofList (lines.take index).flatten, String.ofList (lines.drop index).flatten, ?_, rfl⟩
  rw [← String.ofList_append, ← List.flatten_append, List.take_append_drop, h.flatten]

/-! ### Cuts -/

/-- The runs that begin at a line or after it, in their order. -/
structure Runs (lines : List (List Char)) (first : Nat) (runs : List (Nat × Nat)) : Prop where
  mem_iff : ∀ run, run ∈ runs ↔ IsRun lines run.1 run.2 ∧ first ≤ run.1
  ordered : runs.Pairwise fun run later => run.2 < later.1

theorem runs_nil (h : lines.length ≤ first) : Runs lines first [] := by
  constructor
  · intro run
    constructor
    · intro hmem
      cases hmem
    · rintro ⟨hrun, hfirst⟩
      have hlt := hrun.lt
      have hle := hrun.last_le_length
      omega
  · exact .nil

/-- Before `index` the lines were read, and those from `first` on make up the run that is being read, which begins at the offset `start`; no run is being read if there are none. -/
structure Reading (lines : List (List Char)) (start : Option Nat) (first index : Nat) : Prop where
  le : first ≤ index
  filled : ∀ line, first ≤ line → line < index → Filled lines line
  left : ∀ line, line + 1 = first → ¬ Filled lines line
  start_eq : start = if first < index then some (offsetAt lines first) else none

/-- The run that ends before a line, if one is being read. -/
def ending (first index : Nat) : List (Nat × Nat) :=
  if first < index then [(first, index)] else []

theorem mem_ending {run : Nat × Nat} : run ∈ ending first index ↔ run = (first, index) ∧ first < index := by
  rw [ending]
  split
  case isTrue hlt => simp [hlt]
  case isFalse hge => simp [hge]

/-- The offsets of a run. -/
def cut (lines : List (List Char)) (run : Nat × Nat) : Nat × Nat :=
  (offsetAt lines run.1, offsetAt lines run.2)

namespace Reading

variable {start : Option Nat}

theorem initial (lines : List (List Char)) : Reading lines none 0 0 :=
  ⟨Nat.le_refl 0, fun line _ hline => absurd hline (Nat.not_lt_zero line),
    fun line hline => absurd hline (Nat.succ_ne_zero line), rfl⟩

theorem map_start (h : Reading lines start first index) :
    (start.toList.map fun first => (first, offsetAt lines index)) = (ending first index).map (cut lines) := by
  rw [h.start_eq, ending]
  split
  · rfl
  · rfl

theorem next_blank (hblank : ¬ Filled lines index) : Reading lines none (index + 1) (index + 1) := by
  refine ⟨Nat.le_refl _, fun line hfirst hlast => absurd hfirst (Nat.not_le_of_lt hlast), ?_, ?_⟩
  · intro line hline
    rw [Nat.succ.inj hline]
    exact hblank
  · rw [if_neg (Nat.lt_irrefl _)]

theorem next_filled (h : Reading lines start first index) (hfilled : Filled lines index) :
    Reading lines (some (start.getD (offsetAt lines index))) first (index + 1) := by
  have hle := h.le
  refine ⟨by omega, ?_, h.left, ?_⟩
  · intro line hfirst hline
    rcases Nat.lt_succ_iff_lt_or_eq.1 hline with hlt | heq
    · exact h.filled line hfirst hlt
    · rw [heq]
      exact hfilled
  · rw [h.start_eq, if_pos (show first < index + 1 by omega)]
    split
    · rfl
    · have heq : first = index := by omega
      rw [heq]
      rfl

theorem isRun (h : Reading lines start first index) (hlt : first < index) (hblank : ¬ Filled lines index) :
    IsRun lines first index :=
  ⟨hlt, h.filled, h.left, hblank⟩

theorem isRun_iff (h : Reading lines start first index) (hblank : ¬ Filled lines index) {run : Nat × Nat} :
    IsRun lines run.1 run.2 ∧ first ≤ run.1 ↔
      (run = (first, index) ∧ first < index) ∨ IsRun lines run.1 run.2 ∧ index + 1 ≤ run.1 := by
  have hle := h.le
  constructor
  · rintro ⟨hrun, hfirst⟩
    by_cases hlater : index < run.1
    · exact .inr ⟨hrun, hlater⟩
    · -- a run that begins before the line is the one that the line ends
      have hne : run.1 ≠ index := fun heq => hblank (heq ▸ hrun.filled run.1 (Nat.le_refl _) hrun.lt)
      have hbefore : run.1 < index := by omega
      have hopen : first < index := by omega
      have hafter : first < run.2 := Nat.lt_of_le_of_lt hfirst hrun.lt
      obtain ⟨hsame, hend⟩ := hrun.eq_of_overlap (h.isRun hopen hblank) hbefore hafter
      exact .inl ⟨Prod.ext hsame hend, hopen⟩
  · rintro (⟨rfl, hlt⟩ | ⟨hrun, hlater⟩)
    · exact ⟨h.isRun hlt hblank, Nat.le_refl first⟩
    · exact ⟨hrun, by omega⟩

/-- A line that is not part of a run ends the one that is being read. -/
theorem runs_of_not_filled (h : Reading lines start first index) (hblank : ¬ Filled lines index)
    {runs : List (Nat × Nat)} (hruns : Runs lines (index + 1) runs) : Runs lines first (ending first index ++ runs) := by
  constructor
  · intro run
    rw [List.mem_append, mem_ending, hruns.mem_iff, h.isRun_iff hblank]
  · refine List.pairwise_append.2 ⟨?_, hruns.ordered, ?_⟩
    · rw [ending]
      split
      · exact List.pairwise_singleton _ _
      · exact .nil
    · intro run hmem later hlater
      rw [(mem_ending.1 hmem).1]
      exact ((hruns.mem_iff later).1 hlater).2

end Reading

theorem filled_iff {line : List Char} (h : lines[index]? = some line) : Filled lines index ↔ isBlankText line = false := by
  rw [Filled, h, ← Bool.not_eq_true, isBlankText_iff]
  simp

/-- The cuts that are made from a line on are those of the runs from there on. -/
theorem exists_runs {start : Option Nat} {rest : List (List Char)} (hrest : lines.drop index = rest)
    (h : Reading lines start first index) :
    ∃ runs, runOffsets start (offsetAt lines index) rest = runs.map (cut lines) ∧ Runs lines first runs := by
  induction rest generalizing start first index with
  | nil =>
    have hlength := List.drop_eq_nil_iff.1 hrest
    have hblank : ¬ Filled lines index := fun hfilled => absurd hfilled.lt_length (Nat.not_lt.2 hlength)
    refine ⟨ending first index ++ [], ?_, h.runs_of_not_filled hblank (runs_nil (by omega))⟩
    rw [runOffsets, h.map_start, List.append_nil]
  | cons line rest ih =>
    have hline : lines[index]? = some line := by rw [← List.head?_drop, hrest, List.head?_cons]
    have htail : lines.drop (index + 1) = rest := by rw [← List.tail_drop, hrest, List.tail_cons]
    rw [runOffsets, ← offsetAt_succ hline]
    cases hblank : isBlankText line with
    | true =>
      have hnot : ¬ Filled lines index := by simp [filled_iff hline, hblank]
      obtain ⟨runs, hcuts, hruns⟩ := ih htail (Reading.next_blank hnot)
      refine ⟨ending first index ++ runs, ?_, h.runs_of_not_filled hnot hruns⟩
      rw [if_pos rfl, hcuts, h.map_start, List.map_append]
    | false =>
      rw [if_neg Bool.false_ne_true]
      exact ih htail (h.next_filled ((filled_iff hline).2 hblank))

/-- The runs of a document, in their order, and where they are cut out of it. -/
structure Cuts (document : List Char) (runs : List (Nat × Nat)) : Prop where
  mem_iff : ∀ run, run ∈ runs ↔ IsRun (linesWithEnds document) run.1 run.2
  ordered : runs.Pairwise fun run later => run.2 < later.1
  offsets_eq : runOffsets none 0 (linesWithEnds document) = runs.map (cut (linesWithEnds document))
  valid : ∀ offsets ∈ runOffsets none 0 (linesWithEnds document),
    String.Pos.Raw.IsValid (String.ofList document) ⟨offsets.1⟩ ∧
      String.Pos.Raw.IsValid (String.ofList document) ⟨offsets.2⟩
  slice_eq : ∀ run ∈ runs,
    slice (String.ofList document) (cut (linesWithEnds document) run).1 (cut (linesWithEnds document) run).2 =
      runText (linesWithEnds document) run.1 run.2

theorem exists_cuts (document : List Char) : ∃ runs, Cuts document runs := by
  have hlines := lines_linesWithEnds document
  obtain ⟨runs, hcuts, hruns⟩ := exists_runs List.drop_zero (Reading.initial (linesWithEnds document))
  have hoffsets : runOffsets none 0 (linesWithEnds document) = runs.map (cut (linesWithEnds document)) := hcuts
  refine ⟨runs, ?_, hruns.ordered, hoffsets, ?_, ?_⟩
  · intro run
    rw [hruns.mem_iff]
    exact and_iff_left (Nat.zero_le run.1)
  · intro offsets hmem
    rw [hoffsets] at hmem
    obtain ⟨run, -, rfl⟩ := List.mem_map.1 hmem
    exact ⟨isValid_offsetAt hlines run.1, isValid_offsetAt hlines run.2⟩
  · intro run hrun
    exact slice_offsetAt hlines (Nat.le_of_lt ((hruns.mem_iff run).1 hrun).1.lt)

theorem Cuts.paragraphs_eq {document : List Char} {runs : List (Nat × Nat)} (h : Cuts document runs) :
    paragraphs document = runs.map fun run => trim (runText (linesWithEnds document) run.1 run.2) := by
  rw [paragraphs, h.offsets_eq, List.map_map]
  apply List.map_congr_left
  intro run hrun
  rw [Function.comp_apply, h.slice_eq run hrun]

/-! ### A passage between empty lines -/

theorem runText_append (before run after : List (List Char)) :
    runText (before ++ run ++ after) before.length (before.length + run.length) = run.flatten := by
  rw [runText, ← List.length_append, List.take_left, List.drop_left]

theorem linesWithEnds_passage {passage : List Char} (hfilled : ∀ line ∈ linesWithEnds passage, ¬ Blank line)
    (before after : List Char) :
    ∃ front run rest added,
      linesWithEnds (before ++ ['\n', '\n'] ++ passage ++ ['\n', '\n'] ++ after) = front ++ [['\n']] ++ run ++ ['\n'] :: rest ∧
        run.flatten = passage ++ added ∧ Blank added ∧ ∀ line ∈ run, ¬ Blank line := by
  obtain ⟨added, run, hrun, hcomplete, hadded, hkept⟩ := (lines_linesWithEnds passage).exists_complete
  obtain ⟨rest, hrest⟩ : ∃ rest, ['\n', '\n'] ++ after = added ++ '\n' :: rest := by
    rcases hadded with rfl | rfl
    · exact ⟨'\n' :: after, rfl⟩
    · exact ⟨after, rfl⟩
  have hblank : Blank added := by
    rcases hadded with rfl | rfl
    · decide
    · decide
  have hdocument : before ++ ['\n', '\n'] ++ passage ++ ['\n', '\n'] ++ after =
      before ++ ['\n'] ++ (['\n'] ++ (passage ++ added ++ '\n' :: rest)) := by
    rw [List.append_assoc, hrest]
    simp
  have hfront := lines_linesWithEnds (before ++ ['\n'])
  have hempty : Lines ['\n'] [['\n']] := @Lines.cons [] [] [] List.not_mem_nil .nil
  have hback : Lines ('\n' :: rest) (['\n'] :: linesWithEnds rest) :=
    @Lines.cons [] rest _ List.not_mem_nil (lines_linesWithEnds rest)
  have hended : Complete (before ++ ['\n']) := (complete_line_append before []).2 (by decide)
  have hlines := hfront.append hended (hempty.append (by decide) (hrun.append hcomplete hback))
  refine ⟨linesWithEnds (before ++ ['\n']), run, linesWithEnds rest, added, ?_, hrun.flatten, hblank, hkept hfilled⟩
  rw [hdocument, hlines.linesWithEnds_eq]
  simp

/-- What stands between empty lines without having one is a run, with the end of its last line. -/
theorem exists_isRun_passage {passage : List Char} (hsome : passage ≠ [])
    (hfilled : ∀ line ∈ linesWithEnds passage, ¬ Blank line) (before after : List Char) :
    ∃ first last added, IsRun (linesWithEnds (before ++ ['\n', '\n'] ++ passage ++ ['\n', '\n'] ++ after)) first last ∧
      runText (linesWithEnds (before ++ ['\n', '\n'] ++ passage ++ ['\n', '\n'] ++ after)) first last =
        passage ++ added ∧ Blank added := by
  obtain ⟨front, run, rest, added, hlines, hflatten, hblank, hrun⟩ := linesWithEnds_passage hfilled before after
  have hruns : run ≠ [] := by
    rintro rfl
    exact hsome (List.append_eq_nil_iff.1 hflatten.symm).1
  rw [hlines]
  refine ⟨_, _, added, isRun_append ?_ hruns hrun ?_, ?_, hblank⟩
  · intro line hline
    rw [List.getLast?_append] at hline
    cases hline
    decide
  · intro line hline
    cases hline
    decide
  · rw [runText_append, hflatten]

end GuardedPlan.Text
