import GuardedPlan.Proofs.Text.Overlap

/-!
# Normal forms of texts

Whether a letter is kept is decided before it is put in lower case, and the lower case of one letter, the capital I with a dot above, has a combining dot that would not have been kept. Normalizing a second time takes these dots away and does nothing else, so a normal form is one exactly if the text has no such letter, and only then does a text score as one with its own normal form.
-/

namespace GuardedPlan.Similarity

open Text

variable {c : Char}

/-! ### Steps -/

theorem normalizeFrom_letter (h : isAlphanumeric c = true) (started pending : Bool) (rest : List Char) :
    normalizeFrom started pending (c :: rest) =
      (if pending && started then [' '] else []) ++ lowercaseChar c ++ normalizeFrom true false rest := by
  rw [normalizeFrom, if_neg (by simp [isBlank_of_isAlphanumeric h]), if_pos h]

theorem normalizeFrom_dot (started pending : Bool) (rest : List Char) :
    normalizeFrom started pending (dotAbove :: rest) = normalizeFrom started pending rest := by
  rw [normalizeFrom, if_neg (by decide), if_neg (by decide)]

/-- A settled letter and the space before it are read as they were written. -/
theorem normalizeFrom_settled (h : Settled c) (started pending : Bool) (rest : List Char) :
    normalizeFrom started false ((if pending && started then [' '] else []) ++ c :: rest) =
      (if pending && started then [' '] else []) ++ c :: normalizeFrom true false rest := by
  by_cases hspace : (pending && started) = true
  · have hstarted : started = true := by
      rw [Bool.and_eq_true] at hspace
      exact hspace.2
    subst started
    rw [if_pos hspace, List.singleton_append, List.singleton_append, normalizeFrom, if_pos (by decide),
      normalizeFrom_letter h.isAlphanumeric, h.lowercaseChar]
    rfl
  · rw [if_neg hspace, List.nil_append, List.nil_append, normalizeFrom_letter h.isAlphanumeric, h.lowercaseChar]
    rfl

theorem dotAbove_not_mem_lead (spaced : Bool) : dotAbove ∉ if spaced then [' '] else [] := by
  cases spaced with
  | false => exact List.not_mem_nil
  | true => decide

/-! ### A second pass -/

/-- What is kept of a text stays in a second pass, but for the dots above. -/
theorem normalizeFrom_normalizeFrom (started pending : Bool) (text : List Char) :
    normalizeFrom started false (normalizeFrom started pending text) =
      (normalizeFrom started pending text).filter (· ≠ dotAbove) := by
  induction text generalizing started pending with
  | nil => rfl
  | cons c rest ih =>
    by_cases hblank : isBlank c = true
    · rw [normalizeFrom, if_pos hblank]
      exact ih started true
    · by_cases hletter : isAlphanumeric c = true
      · have hlead : (if pending && started then [' '] else []).filter (· ≠ dotAbove) =
            if pending && started then [' '] else [] :=
          List.filter_eq_self.2 fun d hd => decide_eq_true fun hsame => dotAbove_not_mem_lead _ (hsame ▸ hd)
        rw [normalizeFrom_letter hletter, List.filter_append, List.filter_append, hlead, ← ih, List.append_assoc,
          List.append_assoc]
        rcases lowercaseChar_cases hletter with ⟨-, hpair⟩ | ⟨-, d, hsingle, hsettled⟩
        · have hkept : ['i', dotAbove].filter (· ≠ dotAbove) = ['i'] := rfl
          rw [hpair, hkept, List.cons_append, List.singleton_append, List.singleton_append,
            normalizeFrom_settled ⟨rfl, rfl⟩, normalizeFrom_dot]
        · have hkept : [d].filter (· ≠ dotAbove) = [d] := List.filter_cons_of_pos (decide_eq_true hsettled.ne_dotAbove)
          rw [hsingle, hkept, List.singleton_append, List.singleton_append, normalizeFrom_settled hsettled]
      · rw [normalizeFrom, if_neg hblank, if_neg hletter]
        exact ih started pending

theorem normalize_normalize (text : List Char) :
    normalize (normalize text) = (normalize text).filter (· ≠ dotAbove) :=
  normalizeFrom_normalizeFrom false false text

/-- The capital I with a dot above leaves a small i and the dot. -/
theorem infix_normalizeFrom {text : List Char} (h : dottedCapital ∈ text) (started pending : Bool) :
    ['i', dotAbove] <:+: normalizeFrom started pending text := by
  induction text generalizing started pending with
  | nil => cases h
  | cons c rest ih =>
    rcases List.mem_cons.1 h with rfl | hrest
    · rw [normalizeFrom_letter rfl]
      exact ⟨_, normalizeFrom true false rest, rfl⟩
    · rw [normalizeFrom]
      split
      · exact ih hrest started true
      · split
        · exact (ih hrest true false).trans (List.suffix_append _ _).isInfix
        · exact ih hrest started pending

/-- No other letter leaves a dot above. -/
theorem mem_of_dotAbove_mem {text : List Char} {started pending : Bool}
    (h : dotAbove ∈ normalizeFrom started pending text) : dottedCapital ∈ text := by
  induction text generalizing started pending with
  | nil => cases h
  | cons c rest ih =>
    rw [normalizeFrom] at h
    split at h
    · exact List.mem_cons_of_mem _ (ih h)
    · split at h
      next hletter =>
        rcases List.mem_append.1 h with hlead | hlater
        · rcases lowercaseChar_cases hletter with ⟨rfl, -⟩ | ⟨-, d, hsingle, hsettled⟩
          · exact List.mem_cons_self
          · rw [hsingle, List.mem_append, List.mem_singleton] at hlead
            rcases hlead with hlead | hsame
            · exact absurd hlead (dotAbove_not_mem_lead _)
            · exact absurd hsame.symm hsettled.ne_dotAbove
        · exact List.mem_cons_of_mem _ (ih hlater)
      · exact List.mem_cons_of_mem _ (ih h)

theorem dotAbove_mem_iff {text : List Char} : dotAbove ∈ normalize text ↔ dottedCapital ∈ text :=
  ⟨mem_of_dotAbove_mem, fun h => (infix_normalizeFrom h false false).subset (by simp)⟩

theorem normalize_normalize_eq_iff {text : List Char} :
    normalize (normalize text) = normalize text ↔ dottedCapital ∉ text := by
  rw [normalize_normalize, List.filter_eq_self, ← dotAbove_mem_iff]
  constructor
  · intro hall hdot
    exact absurd (hall dotAbove hdot) (by decide)
  · intro hnone other hother
    exact decide_eq_true fun hsame => hnone (hsame ▸ hother)

/-! ### A text beside its normal form -/

/-- With dots above in them, neither the words nor the pairs of two normal forms in a row are the same. -/
theorem sets_ne_of_mem {text : List Char} (h : dottedCapital ∈ text) :
    wordSet (normalize text) ≠ wordSet (normalize (normalize text)) ∧
      pairSet (normalize text) ≠ pairSet (normalize (normalize text)) := by
  have hgone : dotAbove ∉ normalize (normalize text) := by
    rw [normalize_normalize]
    exact fun hmem => absurd (List.of_mem_filter hmem) (by decide)
  constructor
  · intro hwords
    obtain ⟨word, hword, hmem⟩ := (mem_iff_exists_word (by decide)).1 (dotAbove_mem_iff.2 h)
    exact hgone ((mem_iff_exists_word (by decide)).2 ⟨word, hwords ▸ hword, hmem⟩)
  · intro hpairs
    have hpair : ('i', dotAbove) ∈ pairSet (normalize text) := mem_pairSet_iff.2 (infix_normalizeFrom h false false)
    rw [hpairs, mem_pairSet_iff] at hpair
    exact hgone (hpair.subset (by simp))

/-- A second pass only takes dots above away. So the first one gives a normal form exactly if the text has no capital I with a dot above, and exactly then, and if anything is left of it, a text scores as one with its normal form. -/
theorem normalize_settles_iff (text : List Char) :
    normalize (normalize text) = (normalize text).filter (· ≠ dotAbove) ∧
      (normalize (normalize text) = normalize text ↔ dottedCapital ∉ text) ∧
      ((score text (normalize text)).value = 1 ↔ normalize text ≠ [] ∧ dottedCapital ∉ text) := by
  refine ⟨normalize_normalize text, normalize_normalize_eq_iff, ?_⟩
  constructor
  · intro hone
    have hsome : normalize text ≠ [] := by
      intro hempty
      rw [value_score_eq_zero_of_empty (.inl hempty)] at hone
      exact zero_ne_one hone
    refine ⟨hsome, fun hmem => ?_⟩
    obtain ⟨hwords, hpairs⟩ := sets_ne_of_mem hmem
    rcases (value_score_eq_one_iff hsome).1 hone with hsame | ⟨hsame, -⟩
    · exact hwords hsame
    · exact hpairs hsame
  · rintro ⟨hsome, hnone⟩
    rw [score, normalize_normalize_eq_iff.2 hnone, if_neg (by simpa using hsome), if_pos rfl, Score.value_full]

end GuardedPlan.Similarity
