import GuardedPlan.Proofs.Number.Rounding
import GuardedPlan.Proofs.Text.Paragraphs
import GuardedPlan.Similarity
import Mathlib.Algebra.Order.Field.Basic
import Mathlib.Data.List.Perm.Subperm
import Mathlib.Data.Rat.Cast.Order

/-!
# The best score of a document

The best score is the greatest among the score of the whole document and those of its paragraphs. A text that stands between empty lines is such a paragraph, so nothing around it lowers its score.
-/

namespace GuardedPlan

namespace Score

/-- The fraction as a number. -/
def value (score : Score) : ℚ :=
  score.part / score.whole

variable {a b : Score}

theorem le_iff (ha : 0 < a.whole) (hb : 0 < b.whole) : a.le b = true ↔ a.value ≤ b.value := by
  have hacast : (0 : ℚ) < a.whole := Nat.cast_pos.2 ha
  have hbcast : (0 : ℚ) < b.whole := Nat.cast_pos.2 hb
  rw [le, decide_eq_true_iff, value, value, div_le_div_iff₀ hacast hbcast, ← Nat.cast_mul, ← Nat.cast_mul, Nat.cast_le]

theorem max_eq_or (a b : Score) : a.max b = a ∨ a.max b = b := by
  rw [max]
  split
  · exact .inr rfl
  · exact .inl rfl

theorem value_max (ha : 0 < a.whole) (hb : 0 < b.whole) : (a.max b).value = Max.max a.value b.value := by
  rw [max]
  split
  case isTrue h => exact (max_eq_right ((le_iff ha hb).1 h)).symm
  case isFalse h => exact (max_eq_left (le_of_not_ge (mt (le_iff ha hb).2 h))).symm

/-- A fraction between zero and one. -/
structure InUnit (score : Score) : Prop where
  pos : 0 < score.whole
  le : score.part ≤ score.whole

theorem inUnit_none : none.InUnit := ⟨by decide, by decide⟩

theorem inUnit_full : full.InUnit := ⟨by decide, by decide⟩

theorem inUnit_ofCounts {part whole : Nat} (h : part ≤ whole) : (ofCounts part whole).InUnit := by
  rw [ofCounts]
  split
  case isTrue => exact inUnit_none
  case isFalse hwhole => exact ⟨Nat.pos_of_ne_zero hwhole, h⟩

theorem InUnit.max (ha : a.InUnit) (hb : b.InUnit) : (a.max b).InUnit := by
  rcases max_eq_or a b with heq | heq
  · rw [heq]
    exact ha
  · rw [heq]
    exact hb

/-- What is shown of a greater fraction is not less. -/
theorem toBinary64_le (ha : a.InUnit) (hb : b.InUnit) (h : a.value ≤ b.value) : a.toBinary64.le b.toBinary64 = true := by
  obtain ⟨x, hx, hxsign, hxunits⟩ := Binary64.exists_ofRatio? false ha.le
  obtain ⟨y, hy, hysign, hyunits⟩ := Binary64.exists_ofRatio? false hb.le
  have hcross : a.part * b.whole ≤ b.part * a.whole := of_decide_eq_true ((le_iff ha.pos hb.pos).2 h)
  have hscaled : a.part * Binary64.one * b.whole ≤ b.part * Binary64.one * a.whole := by
    rw [Nat.mul_right_comm, Nat.mul_right_comm b.part]
    exact Nat.mul_le_mul_right Binary64.one hcross
  have hnearest := Binary64.nearest_mono ha.pos hb.pos hscaled
  rw [← hxunits, ← hyunits] at hnearest
  rw [toBinary64, toBinary64, hx, hy]
  apply decide_eq_true
  simp only [Option.getD_some, Binary64.units, hxsign, hysign]
  exact Int.ofNat_le.2 hnearest

/-- One of the scores, and none of them is greater, neither as a fraction nor as it is shown. -/
structure IsGreatest (best : Score) (scores : List Score) : Prop where
  mem : best ∈ scores
  value_le : ∀ score ∈ scores, score.value ≤ best.value
  shown_le : ∀ score ∈ scores, score.toBinary64.le best.toBinary64 = true

theorem foldl_max_spec {first : Score} {scores : List Score} (h : ∀ score ∈ first :: scores, score.InUnit) :
    scores.foldl Score.max first ∈ first :: scores ∧
      ∀ score ∈ first :: scores, score.value ≤ (scores.foldl Score.max first).value := by
  induction scores generalizing first with
  | nil => simp
  | cons next rest ih =>
    obtain ⟨hfirst, hnext, hrest⟩ : first.InUnit ∧ next.InUnit ∧ ∀ score ∈ rest, score.InUnit := by
      simpa using h
    obtain ⟨hmem, hle⟩ := ih (List.forall_mem_cons.2 ⟨hfirst.max hnext, hrest⟩)
    rw [List.foldl_cons]
    constructor
    · rcases List.mem_cons.1 hmem with heq | hlater
      · rw [heq]
        rcases max_eq_or first next with hmax | hmax
        · simp [hmax]
        · simp [hmax]
      · exact List.mem_cons_of_mem _ (List.mem_cons_of_mem _ hlater)
    · obtain ⟨hmax, hlater⟩ := List.forall_mem_cons.1 hle
      rw [value_max hfirst.pos hnext.pos, max_le_iff] at hmax
      exact List.forall_mem_cons.2 ⟨hmax.1, List.forall_mem_cons.2 ⟨hmax.2, hlater⟩⟩

theorem isGreatest_foldl_max {first : Score} {scores : List Score} (h : ∀ score ∈ first :: scores, score.InUnit) :
    IsGreatest (scores.foldl Score.max first) (first :: scores) := by
  obtain ⟨hmem, hle⟩ := foldl_max_spec h
  exact ⟨hmem, hle, fun score hscore => toBinary64_le (h score hscore) (h _ hmem) (hle score hscore)⟩

end Score

namespace Similarity

open Text

/-! ### White space around a text -/

theorem normalizeFrom_start (text : List Char) : normalizeFrom false true text = normalizeFrom false false text := by
  induction text with
  | nil => rfl
  | cons c rest ih =>
    rw [normalizeFrom, normalizeFrom]
    split
    · rfl
    · split
      · rfl
      · exact ih

theorem normalizeFrom_lead {lead : List Char} (h : Blank lead) (text : List Char) :
    normalizeFrom false false (lead ++ text) = normalizeFrom false false text := by
  induction lead with
  | nil => rfl
  | cons c rest ih =>
    obtain ⟨hc, hrest⟩ := List.forall_mem_cons.1 h
    rw [List.cons_append, normalizeFrom, if_pos hc, normalizeFrom_start]
    exact ih hrest

theorem normalizeFrom_blank {trail : List Char} (h : Blank trail) (started pending : Bool) :
    normalizeFrom started pending trail = [] := by
  induction trail generalizing pending with
  | nil => rfl
  | cons c rest ih =>
    obtain ⟨hc, hrest⟩ := List.forall_mem_cons.1 h
    rw [normalizeFrom, if_pos hc]
    exact ih hrest true

theorem normalizeFrom_trail {trail : List Char} (h : Blank trail) (text : List Char) (started pending : Bool) :
    normalizeFrom started pending (text ++ trail) = normalizeFrom started pending text := by
  induction text generalizing started pending with
  | nil => exact normalizeFrom_blank h started pending
  | cons c rest ih => rw [List.cons_append, normalizeFrom, normalizeFrom, ih, ih, ih]

theorem normalize_append_blank {trail : List Char} (h : Blank trail) (text : List Char) :
    normalize (text ++ trail) = normalize text :=
  normalizeFrom_trail h text false false

theorem normalize_trim (text : List Char) : normalize (trim text) = normalize text := by
  obtain ⟨lead, trail, htext, hlead, htrail⟩ := exists_trim text
  conv => rhs; rw [htext]
  rw [normalize_append_blank htrail]
  exact (normalizeFrom_lead hlead (trim text)).symm

theorem score_congr {text other : List Char} (h : normalize text = normalize other) (expected : List Char) :
    score text expected = score other expected := by
  rw [score, score, h]

/-! ### Scores -/

theorem shared_le_left {α : Type} [BEq α] (a b : List α) : shared a b ≤ a.length :=
  List.length_filter_le _ _

section

variable {α : Type} [BEq α] [LawfulBEq α]

theorem nodup_eraseDups (items : List α) : items.eraseDups.Nodup := by
  induction hlength : items.length using Nat.strongRecOn generalizing items with
  | ind length ih =>
    cases items with
    | nil => exact .nil
    | cons item rest =>
      rw [List.eraseDups_cons, List.nodup_cons, List.mem_eraseDups, List.mem_filter]
      refine ⟨by simp, ih _ ?_ _ rfl⟩
      have hle := List.length_filter_le (fun other => !other == item) rest
      rw [List.length_cons] at hlength
      omega

theorem shared_le_right {a : List α} (h : a.Nodup) (b : List α) : shared a b ≤ b.length := by
  have hdistinct : (a.filter b.contains).Nodup := h.filter _
  apply (List.Nodup.subperm hdistinct _).length_le
  intro item hitem
  exact List.contains_iff_mem.1 (List.mem_filter.1 hitem).2

end

theorem inUnit_jaccard (a b : List Char) : (jaccard a b).InUnit := by
  apply Score.inUnit_ofCounts
  have hleft := shared_le_left (tokens a) (tokens b)
  have hright := shared_le_right (nodup_eraseDups ((a.splitOn ' ').filter fun token => !token.isEmpty)) (tokens b)
  change shared (tokens a) (tokens b) ≤ (tokens b).length at hright
  omega

theorem inUnit_dice (a b : List Char) : (dice a b).InUnit := by
  apply Score.inUnit_ofCounts
  have hleft := shared_le_left (bigrams a) (bigrams b)
  have hright := shared_le_right (nodup_eraseDups (a.zip (a.drop 1))) (bigrams b)
  change shared (bigrams a) (bigrams b) ≤ (bigrams b).length at hright
  omega

theorem inUnit_score (a b : List Char) : (score a b).InUnit := by
  rw [score]
  split
  · exact Score.inUnit_none
  · split
    · exact Score.inUnit_full
    · exact (inUnit_jaccard _ _).max (inUnit_dice _ _)

/-! ### The best score -/

theorem bestScore_eq {document : List Char} {runs : List (Nat × Nat)} (h : Cuts document runs) (expected : List Char) :
    bestScore document expected =
      (runs.map fun run => score (runText (linesWithEnds document) run.1 run.2) expected).foldl Score.max
        (score document expected) := by
  rw [bestScore, h.paragraphs_eq, List.foldl_map, List.foldl_map]
  simp only [score_congr (normalize_trim _)]

/-- The best score is the greatest among that of the document and those of its runs, each cut out once between two characters, and a passage that stands between empty lines is scored as well there as alone. -/
theorem bestScore_isGreatest (document expected : List Char) :
    (∃ runs, Cuts document runs ∧
      Score.IsGreatest (bestScore document expected)
        (score document expected :: runs.map fun run => score (runText (linesWithEnds document) run.1 run.2) expected)) ∧
    ∀ before passage after, document = before ++ ['\n', '\n'] ++ passage ++ ['\n', '\n'] ++ after → passage ≠ [] →
      (∀ line ∈ linesWithEnds passage, ¬ Blank line) →
        (score passage expected).value ≤ (bestScore document expected).value ∧
          (score passage expected).toBinary64.le (bestScore document expected).toBinary64 = true := by
  obtain ⟨runs, hcuts⟩ := exists_cuts document
  have hbest : Score.IsGreatest (bestScore document expected)
      (score document expected :: runs.map fun run => score (runText (linesWithEnds document) run.1 run.2) expected) := by
    rw [bestScore_eq hcuts]
    apply Score.isGreatest_foldl_max
    intro found hfound
    rcases List.mem_cons.1 hfound with rfl | hrun
    · exact inUnit_score _ _
    · obtain ⟨run, -, rfl⟩ := List.mem_map.1 hrun
      exact inUnit_score _ _
  refine ⟨⟨runs, hcuts, hbest⟩, ?_⟩
  rintro before passage after hdocument hsome hfilled
  obtain ⟨first, last, added, hrun, htext, hadded⟩ := exists_isRun_passage hsome hfilled before after
  rw [← hdocument] at hrun htext
  have hsame : score (runText (linesWithEnds document) first last) expected = score passage expected := by
    rw [htext]
    exact score_congr (normalize_append_blank hadded passage) expected
  have hmem := List.mem_map_of_mem (f := fun run : Nat × Nat => score (runText (linesWithEnds document) run.1 run.2) expected)
    ((hcuts.mem_iff (first, last)).2 hrun)
  have hscored := List.mem_cons_of_mem (score document expected) (hsame ▸ hmem)
  exact ⟨hbest.value_le _ hscored, hbest.shown_le _ hscored⟩

theorem bestScore_isGreatest_passage :
    (score "Deploy it.\nNow".toList "deploy it now".toList).value ≤
        (bestScore "# A\n\nDeploy it.\nNow\n\n\u00df".toList "deploy it now".toList).value ∧
      (score "Deploy it.\nNow".toList "deploy it now".toList).toBinary64.le
        (bestScore "# A\n\nDeploy it.\nNow\n\n\u00df".toList "deploy it now".toList).toBinary64 = true :=
  (bestScore_isGreatest "# A\n\nDeploy it.\nNow\n\n\u00df".toList "deploy it now".toList).2 "# A".toList
    "Deploy it.\nNow".toList "\u00df".toList (by decide) (by decide) (by decide)

end Similarity

end GuardedPlan
