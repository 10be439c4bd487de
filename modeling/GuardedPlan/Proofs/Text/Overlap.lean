import GuardedPlan.Proofs.Text.Letters
import GuardedPlan.Proofs.Text.Similarity
import Mathlib.Data.Finset.Card

/-!
# Overlap of texts

The two ratios of a score are ratios of sets: the words that two normalized texts share among all their words, and the pairs of neighbouring characters that they share, counted in both, among the pairs of both. Either ratio is one exactly for equal sets that are not empty and zero exactly for sets without a common member. A normalized text that is not empty has a word, so the score of two equal texts is no exception to the rule, and neither is the score of an empty one.
-/

namespace GuardedPlan

namespace Score

theorem value_none : none.value = 0 := by
  simp [none, value]

theorem value_full : full.value = 1 := by
  simp [full, value]

theorem value_ofCounts (part whole : Nat) : (ofCounts part whole).value = part / whole := by
  rw [ofCounts]
  split
  case isTrue hwhole => rw [value_none, hwhole, Nat.cast_zero, div_zero]
  case isFalse => rfl

theorem InUnit.value_mem {score : Score} (h : score.InUnit) : 0 ≤ score.value ∧ score.value ≤ 1 := by
  have hwhole : (0 : ℚ) < score.whole := Nat.cast_pos.2 h.pos
  rw [value]
  exact ⟨div_nonneg (Nat.cast_nonneg _) hwhole.le, (div_le_one hwhole).2 (Nat.cast_le.2 h.le)⟩

end Score

namespace Similarity

/-! ### Ratios of sets -/

section

variable {α : Type} [DecidableEq α] {a b : Finset α}

theorem ne_zero_of_div_eq_one {part whole : ℚ} (h : part / whole = 1) : whole ≠ 0 := by
  rintro rfl
  rw [div_zero] at h
  exact zero_ne_one h

/-- The members two sets share, among all their members. -/
def jaccardIndex (a b : Finset α) : ℚ :=
  (a ∩ b).card / (a ∪ b).card

/-- Twice the members two sets share, among the members of both. -/
def diceIndex (a b : Finset α) : ℚ :=
  (2 * (a ∩ b).card) / (a.card + b.card)

theorem jaccardIndex_eq_zero_iff : jaccardIndex a b = 0 ↔ Disjoint a b := by
  rw [jaccardIndex, div_eq_zero_iff, Nat.cast_eq_zero, Nat.cast_eq_zero, Finset.card_eq_zero, Finset.card_eq_zero,
    Finset.disjoint_iff_inter_eq_empty]
  constructor
  · rintro (hinter | hunion)
    · exact hinter
    · rw [(Finset.union_eq_empty.1 hunion).1, Finset.empty_inter]
  · exact .inl

theorem jaccardIndex_eq_one_iff : jaccardIndex a b = 1 ↔ a = b ∧ a.Nonempty := by
  constructor
  · intro h
    have hwhole : ((a ∪ b).card : ℚ) ≠ 0 := ne_zero_of_div_eq_one h
    rw [jaccardIndex, div_eq_one_iff_eq hwhole, Nat.cast_inj] at h
    have hsame : a = b := inf_eq_sup.1 (Finset.eq_of_subset_of_card_le Finset.inter_subset_union h.ge)
    subst b
    rw [Finset.union_self, Nat.cast_ne_zero, Finset.card_ne_zero] at hwhole
    exact ⟨rfl, hwhole⟩
  · rintro ⟨rfl, hsome⟩
    rw [jaccardIndex, Finset.inter_self, Finset.union_self, div_self]
    exact Nat.cast_ne_zero.2 (Finset.card_ne_zero.2 hsome)

theorem diceIndex_eq_zero_iff : diceIndex a b = 0 ↔ Disjoint a b := by
  rw [diceIndex, div_eq_zero_iff, mul_eq_zero, ← Nat.cast_add, Nat.cast_eq_zero, Nat.cast_eq_zero, Nat.add_eq_zero_iff,
    Finset.card_eq_zero, Finset.card_eq_zero, Finset.card_eq_zero, Finset.disjoint_iff_inter_eq_empty]
  constructor
  · rintro ((htwo | hinter) | ⟨ha, -⟩)
    · exact absurd htwo two_ne_zero
    · exact hinter
    · rw [ha, Finset.empty_inter]
  · exact fun hinter => .inl (.inr hinter)

theorem diceIndex_eq_one_iff : diceIndex a b = 1 ↔ a = b ∧ a.Nonempty := by
  constructor
  · intro h
    have hwhole : (a.card + b.card : ℚ) ≠ 0 := ne_zero_of_div_eq_one h
    rw [diceIndex, div_eq_one_iff_eq hwhole] at h
    have hcard : 2 * (a ∩ b).card = a.card + b.card := by exact_mod_cast h
    have hleft : (a ∩ b).card ≤ a.card := Finset.card_le_card Finset.inter_subset_left
    have hright : (a ∩ b).card ≤ b.card := Finset.card_le_card Finset.inter_subset_right
    have hsame : a = b := by
      have hinLeft : a ∩ b = a := Finset.eq_of_subset_of_card_le Finset.inter_subset_left (by omega)
      have hinRight : a ∩ b = b := Finset.eq_of_subset_of_card_le Finset.inter_subset_right (by omega)
      exact hinLeft.symm.trans hinRight
    subst b
    refine ⟨rfl, Finset.card_ne_zero.1 fun hzero => hwhole ?_⟩
    rw [hzero, Nat.cast_zero, add_zero]
  · rintro ⟨rfl, hsome⟩
    have hcard : (a.card : ℚ) ≠ 0 := Nat.cast_ne_zero.2 (Finset.card_ne_zero.2 hsome)
    rw [diceIndex, Finset.inter_self, ← two_mul, div_self (mul_ne_zero two_ne_zero hcard)]

end

/-! ### Words and pairs -/

def wordSet (text : List Char) : Finset (List Char) :=
  (tokens text).toFinset

/-- The pairs of neighbouring characters of a normalized text. -/
def pairSet (text : List Char) : Finset (Char × Char) :=
  (bigrams text).toFinset

theorem mem_wordSet_iff {text word : List Char} : word ∈ wordSet text ↔ word ∈ text.splitOn ' ' ∧ word ≠ [] := by
  simp [wordSet, tokens]

/-- A character that is no space stands in a word. -/
theorem mem_iff_exists_word {text : List Char} {c : Char} (hc : c ≠ ' ') :
    c ∈ text ↔ ∃ word ∈ wordSet text, c ∈ word := by
  have hpieces : ∀ pieces : List (List Char), c ∈ [' '].intercalate pieces ↔ ∃ piece ∈ pieces, c ∈ piece := by
    intro pieces
    induction pieces with
    | nil => simp
    | cons piece rest ih =>
      cases rest with
      | nil => simp
      | cons next more =>
        rw [List.intercalate_cons_cons, List.mem_append, List.mem_append, List.mem_singleton, ih, List.exists_mem_cons_iff]
        simp [hc]
  have hsplit := hpieces (text.splitOn ' ')
  rw [List.intercalate_splitOn ' '] at hsplit
  rw [hsplit]
  constructor
  · rintro ⟨piece, hpiece, hmem⟩
    exact ⟨piece, mem_wordSet_iff.2 ⟨hpiece, List.ne_nil_of_mem hmem⟩, hmem⟩
  · rintro ⟨word, hword, hmem⟩
    exact ⟨word, (mem_wordSet_iff.1 hword).1, hmem⟩

theorem mem_pairSet_iff {text : List Char} {first second : Char} :
    (first, second) ∈ pairSet text ↔ [first, second] <:+: text := by
  rw [pairSet, List.mem_toFinset, bigrams, List.mem_eraseDups]
  induction text with
  | nil => simp
  | cons c rest ih =>
    cases rest with
    | nil => simp [List.infix_cons_iff]
    | cons d more =>
      rw [List.infix_cons_iff, ← ih]
      simp [List.cons_prefix_cons]

theorem exists_letter_of_normalizeFrom {text : List Char} {started pending : Bool}
    (h : normalizeFrom started pending text ≠ []) :
    ∃ c ∈ normalizeFrom started pending text, Text.isAlphanumeric c = true := by
  induction text generalizing started pending with
  | nil => exact absurd rfl h
  | cons c rest ih =>
    rw [normalizeFrom] at h ⊢
    split at h
    next hblank =>
      rw [if_pos hblank]
      exact ih h
    next hblank =>
      rw [if_neg hblank]
      split at h
      next hletter =>
        obtain ⟨d, hd, hsame⟩ := Text.exists_mem_lowercaseChar hletter
        rw [if_pos hletter]
        exact ⟨d, List.mem_append_left _ (List.mem_append_right _ hd), hsame⟩
      next hletter =>
        rw [if_neg hletter]
        exact ih h

/-- A normalized text that is not empty has a word. -/
theorem wordSet_normalize_nonempty {text : List Char} (h : normalize text ≠ []) :
    (wordSet (normalize text)).Nonempty := by
  obtain ⟨c, hc, hletter⟩ := exists_letter_of_normalizeFrom h
  have hspace : c ≠ ' ' := by
    rintro rfl
    cases hletter
  obtain ⟨word, hword, -⟩ := (mem_iff_exists_word hspace).1 hc
  exact ⟨word, hword⟩

/-! ### Scores as ratios -/

section

variable {α : Type} [BEq α] [LawfulBEq α] [DecidableEq α] {a b : List α}

theorem shared_eq_card (ha : a.Nodup) (b : List α) : shared a b = (a.toFinset ∩ b.toFinset).card := by
  have hfilter : (a.filter b.contains).toFinset = a.toFinset ∩ b.toFinset := by
    ext item
    simp
  rw [← hfilter, List.toFinset_card_of_nodup (ha.filter _), shared]

theorem shared_comm (ha : a.Nodup) (hb : b.Nodup) : shared a b = shared b a := by
  rw [shared_eq_card ha, shared_eq_card hb, Finset.inter_comm]

end

theorem nodup_tokens (text : List Char) : (tokens text).Nodup :=
  nodup_eraseDups _

theorem nodup_bigrams (text : List Char) : (bigrams text).Nodup :=
  nodup_eraseDups _

theorem value_jaccard (a b : List Char) : (jaccard a b).value = jaccardIndex (wordSet a) (wordSet b) := by
  have hunion := Finset.card_union_add_card_inter (wordSet a) (wordSet b)
  rw [wordSet, wordSet, List.toFinset_card_of_nodup (nodup_tokens a), List.toFinset_card_of_nodup (nodup_tokens b),
    ← shared_eq_card (nodup_tokens a)] at hunion
  rw [jaccard, Score.value_ofCounts, ← hunion, Nat.add_sub_cancel, shared_eq_card (nodup_tokens a)]
  rfl

theorem value_dice (a b : List Char) : (dice a b).value = diceIndex (pairSet a) (pairSet b) := by
  rw [dice, Score.value_ofCounts, shared_eq_card (nodup_bigrams a), diceIndex, pairSet, pairSet,
    List.toFinset_card_of_nodup (nodup_bigrams a), List.toFinset_card_of_nodup (nodup_bigrams b)]
  push_cast
  rfl

theorem jaccard_comm (a b : List Char) : jaccard a b = jaccard b a := by
  rw [jaccard, jaccard, shared_comm (nodup_tokens a) (nodup_tokens b), Nat.add_comm]

theorem dice_comm (a b : List Char) : dice a b = dice b a := by
  rw [dice, dice, shared_comm (nodup_bigrams a) (nodup_bigrams b), Nat.add_comm]

theorem score_comm (a b : List Char) : score a b = score b a := by
  rw [score, score, Bool.or_comm, jaccard_comm, dice_comm]
  simp only [eq_comm]

theorem ratios_of_empty {a b : List Char} (h : a = [] ∨ b = []) :
    jaccardIndex (wordSet a) (wordSet b) = 0 ∧ diceIndex (pairSet a) (pairSet b) = 0 := by
  have hwords : wordSet [] = ∅ := rfl
  have hpairs : pairSet [] = ∅ := rfl
  rw [jaccardIndex_eq_zero_iff, diceIndex_eq_zero_iff]
  rcases h with rfl | rfl
  · rw [hwords, hpairs]
    exact ⟨Finset.disjoint_empty_left _, Finset.disjoint_empty_left _⟩
  · rw [hwords, hpairs]
    exact ⟨Finset.disjoint_empty_right _, Finset.disjoint_empty_right _⟩

theorem ratios_mem (a b : List Char) :
    (0 ≤ jaccardIndex (wordSet a) (wordSet b) ∧ jaccardIndex (wordSet a) (wordSet b) ≤ 1) ∧
      0 ≤ diceIndex (pairSet a) (pairSet b) ∧ diceIndex (pairSet a) (pairSet b) ≤ 1 := by
  rw [← value_jaccard, ← value_dice]
  exact ⟨(inUnit_jaccard a b).value_mem, (inUnit_dice a b).value_mem⟩

/-- Neither an empty text nor two equal ones are an exception: the value of a score is the larger of the two ratios. -/
theorem value_score (a b : List Char) :
    (score a b).value = Max.max (jaccard (normalize a) (normalize b)).value (dice (normalize a) (normalize b)).value := by
  rw [score]
  split
  next hempty =>
    rw [Bool.or_eq_true, List.isEmpty_iff, List.isEmpty_iff] at hempty
    obtain ⟨hwords, hpairs⟩ := ratios_of_empty hempty
    rw [Score.value_none, value_jaccard, value_dice, hwords, hpairs, max_self]
  next hsome =>
    rw [Bool.or_eq_true, List.isEmpty_iff, List.isEmpty_iff, not_or] at hsome
    split
    next hsame =>
      have hwords := jaccardIndex_eq_one_iff.2 ⟨rfl, wordSet_normalize_nonempty hsome.2⟩
      rw [hsame, Score.value_full, value_jaccard, hwords, max_eq_left (inUnit_dice _ _).value_mem.2]
    next => exact Score.value_max (inUnit_jaccard _ _).pos (inUnit_dice _ _).pos

theorem value_score_eq_zero_of_empty {a b : List Char} (h : normalize a = [] ∨ normalize b = []) :
    (score a b).value = 0 := by
  obtain ⟨hwords, hpairs⟩ := ratios_of_empty h
  rw [value_score, value_jaccard, value_dice, hwords, hpairs, max_self]

theorem value_score_eq_one_iff {a b : List Char} (h : normalize a ≠ []) :
    (score a b).value = 1 ↔ wordSet (normalize a) = wordSet (normalize b) ∨
      pairSet (normalize a) = pairSet (normalize b) ∧ (pairSet (normalize a)).Nonempty := by
  obtain ⟨⟨-, hjaccard⟩, -, hdice⟩ := ratios_mem (normalize a) (normalize b)
  rw [value_score, value_jaccard, value_dice]
  constructor
  · intro hone
    rcases max_choice (jaccardIndex (wordSet (normalize a)) (wordSet (normalize b)))
      (diceIndex (pairSet (normalize a)) (pairSet (normalize b))) with hwords | hpairs
    · exact .inl (jaccardIndex_eq_one_iff.1 (hwords ▸ hone)).1
    · exact .inr (diceIndex_eq_one_iff.1 (hpairs ▸ hone))
  · rintro (hsame | hsame)
    · rw [jaccardIndex_eq_one_iff.2 ⟨hsame, wordSet_normalize_nonempty h⟩, max_eq_left hdice]
    · rw [diceIndex_eq_one_iff.2 hsame, max_eq_right hjaccard]

theorem value_score_eq_zero_iff (a b : List Char) :
    (score a b).value = 0 ↔ Disjoint (wordSet (normalize a)) (wordSet (normalize b)) ∧
      Disjoint (pairSet (normalize a)) (pairSet (normalize b)) := by
  obtain ⟨⟨hjaccard, -⟩, hdice, -⟩ := ratios_mem (normalize a) (normalize b)
  rw [value_score, value_jaccard, value_dice, ← jaccardIndex_eq_zero_iff, ← diceIndex_eq_zero_iff]
  constructor
  · intro hzero
    obtain ⟨hwords, hpairs⟩ := max_le_iff.1 hzero.le
    exact ⟨le_antisymm hwords hjaccard, le_antisymm hpairs hdice⟩
  · rintro ⟨hwords, hpairs⟩
    rw [hwords, hpairs, max_self]

/-- A score does not depend on the order of the texts and lies between zero and one. It is the larger of two ratios of sets, also where a text is empty, which gives zero, and where the texts are equal. For texts with something in them it is one exactly if their words or their pairs are the same, and zero exactly if they share neither a word nor a pair. The words of a text are the pieces between its spaces that are not empty, its pairs the characters that stand next to each other in it. -/
theorem score_measures_overlap (a b : List Char) :
    score a b = score b a ∧ 0 ≤ (score a b).value ∧ (score a b).value ≤ 1 ∧
      (score a b).value =
        Max.max (jaccard (normalize a) (normalize b)).value (dice (normalize a) (normalize b)).value ∧
      (normalize a = [] ∨ normalize b = [] → (score a b).value = 0) ∧
      (normalize a ≠ [] → normalize b ≠ [] →
        ((score a b).value = 1 ↔ wordSet (normalize a) = wordSet (normalize b) ∨
          pairSet (normalize a) = pairSet (normalize b) ∧ (pairSet (normalize a)).Nonempty) ∧
        ((score a b).value = 0 ↔ Disjoint (wordSet (normalize a)) (wordSet (normalize b)) ∧
          Disjoint (pairSet (normalize a)) (pairSet (normalize b)))) ∧
      (∀ text word : List Char, word ∈ wordSet text ↔ word ∈ text.splitOn ' ' ∧ word ≠ []) ∧
      ∀ (text : List Char) (first second : Char), (first, second) ∈ pairSet text ↔ [first, second] <:+: text := by
  obtain ⟨hlow, hhigh⟩ := (inUnit_score a b).value_mem
  refine ⟨score_comm a b, hlow, hhigh, value_score a b, value_score_eq_zero_of_empty, fun ha _ => ?_,
    fun _ _ => mem_wordSet_iff, fun _ _ _ => mem_pairSet_iff⟩
  exact ⟨value_score_eq_one_iff ha, value_score_eq_zero_iff a b⟩

/-- Texts of the same words, texts of the same pairs without a common word, and texts that share nothing. -/
theorem score_measures_overlap_samples :
    (normalize "--".toList = [] ∧ (score "--".toList "x".toList).value = 0) ∧
      (normalize "Ba ab.".toList = "ba ab".toList ∧ normalize "ab ba".toList = "ab ba".toList ∧
        (score "Ba ab.".toList "ab ba".toList).value = 1) ∧
      (normalize "abab".toList = "abab".toList ∧ normalize "ababab".toList = "ababab".toList ∧
        Disjoint (wordSet "abab".toList) (wordSet "ababab".toList) ∧ (score "abab".toList "ababab".toList).value = 1) ∧
      (normalize "a".toList = "a".toList ∧ normalize "B!".toList = "b".toList ∧
        (score "a".toList "B!".toList).value = 0) := by
  have hempty : normalize "--".toList = [] := by decide
  have hturned : normalize "Ba ab.".toList = "ba ab".toList := by decide
  have hplain : normalize "ab ba".toList = "ab ba".toList := by decide
  have htwice : normalize "abab".toList = "abab".toList := by decide
  have hthrice : normalize "ababab".toList = "ababab".toList := by decide
  have hone : normalize "a".toList = "a".toList := by decide
  have hother : normalize "B!".toList = "b".toList := by decide
  obtain ⟨-, -, -, -, hzero, -, -⟩ := score_measures_overlap "--".toList "x".toList
  obtain ⟨-, -, -, -, -, hwords, -⟩ := score_measures_overlap "Ba ab.".toList "ab ba".toList
  obtain ⟨-, -, -, -, -, hpairs, -⟩ := score_measures_overlap "abab".toList "ababab".toList
  obtain ⟨-, -, -, -, -, hapart, -⟩ := score_measures_overlap "a".toList "B!".toList
  rw [hturned, hplain] at hwords
  rw [htwice, hthrice] at hpairs
  rw [hone, hother] at hapart
  refine ⟨⟨hempty, hzero (.inl hempty)⟩, ⟨hturned, hplain, ?_⟩, ⟨htwice, hthrice, by decide, ?_⟩, hone, hother, ?_⟩
  · exact (hwords (by decide) (by decide)).1.2 (.inl (by decide))
  · exact (hpairs (by decide) (by decide)).1.2 (.inr ⟨by decide, ('a', 'b'), by decide⟩)
  · exact (hapart (by decide) (by decide)).2.2 ⟨by decide, by decide⟩

end Similarity

end GuardedPlan
