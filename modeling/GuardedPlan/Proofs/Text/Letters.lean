import GuardedPlan.Text.Alphanumeric
import GuardedPlan.Text.Blank
import GuardedPlan.Text.Lowercase

/-!
# Letters in lower case

What the character tables say about each other. No letter or number is white space, and lower-casing leads from letters and numbers to letters and numbers that are their own lower case, with one exception: the capital I with a dot above becomes a small i and a combining dot, which is neither letter nor number. The tables are compared run by run and not character by character: what a run leads to lies inside one range and between the other runs.
-/

namespace GuardedPlan.Text

/-! ### Ranges -/

namespace CharRanges

/-- Whether one of the ranges holds everything between two code points. -/
def spans : CharRanges → Nat → Nat → Bool
  | [], _, _ => false
  | (first, last) :: rest, low, high => first.ble low && (high.ble last || spans rest low high)

/-- Whether two lists of ranges have no code point in common. -/
def apart (ranges others : CharRanges) : Bool :=
  ranges.all fun range => others.all fun other => range.2.blt other.1 || other.2.blt range.1

/-- Whether every code point of the ranges is a character. -/
def valid (ranges : CharRanges) : Bool :=
  ranges.all fun range => range.2.blt 0xD800 || (Nat.blt 0xDFFF range.1 && range.2.blt 0x110000)

variable {ranges others : CharRanges} {code low high : Nat}

theorem exists_of_has (h : ranges.has code = true) : ∃ range ∈ ranges, range.1 ≤ code ∧ code ≤ range.2 := by
  induction ranges with
  | nil => cases h
  | cons range rest ih =>
    obtain ⟨first, last⟩ := range
    rw [has] at h
    split at h
    · cases h
    next hfirst =>
      rw [Bool.or_eq_true, decide_eq_true_iff] at h
      rcases h with hlast | hrest
      · exact ⟨(first, last), List.mem_cons_self, Nat.le_of_not_lt hfirst, hlast⟩
      · obtain ⟨range, hrange, hbounds⟩ := ih hrest
        exact ⟨range, List.mem_cons_of_mem _ hrange, hbounds⟩

theorem has_of_spans (h : ranges.spans low high = true) (hlow : low ≤ code) (hhigh : code ≤ high) :
    ranges.has code = true := by
  induction ranges with
  | nil => cases h
  | cons range rest ih =>
    obtain ⟨first, last⟩ := range
    rw [spans, Bool.and_eq_true, Nat.ble_eq, Bool.or_eq_true, Nat.ble_eq] at h
    obtain ⟨hfirst, hlast⟩ := h
    rw [has, if_neg (by omega), Bool.or_eq_true, decide_eq_true_iff]
    exact hlast.imp (Nat.le_trans hhigh) ih

theorem has_eq_false_of_apart (h : ranges.apart others = true) (hcode : ranges.has code = true) :
    others.has code = false := by
  obtain ⟨range, hrange, hfirst, hlast⟩ := exists_of_has hcode
  refine Bool.eq_false_iff.2 fun hother => ?_
  obtain ⟨other, hmem, hfirst', hlast'⟩ := exists_of_has hother
  have hapart := List.all_eq_true.1 (List.all_eq_true.1 h range hrange) other hmem
  rw [Bool.or_eq_true, Nat.blt_eq, Nat.blt_eq] at hapart
  omega

theorem isValidChar_of_valid (h : ranges.valid = true) (hcode : ranges.has code = true) : code.isValidChar := by
  obtain ⟨range, hrange, hfirst, hlast⟩ := exists_of_has hcode
  have hvalid := List.all_eq_true.1 h range hrange
  rw [Bool.or_eq_true, Bool.and_eq_true, Nat.blt_eq, Nat.blt_eq, Nat.blt_eq] at hvalid
  rcases hvalid with hlow | ⟨hhigh, hmost⟩
  · exact .inl (Nat.lt_of_le_of_lt hlast hlow)
  · exact .inr ⟨Nat.lt_of_lt_of_le hhigh hfirst, Nat.lt_of_le_of_lt hlast hmost⟩

end CharRanges

/-! ### Runs of letters -/

namespace CaseRun

/-- A code point is one of those that a run moves. -/
structure Has (run : CaseRun) (code : Nat) : Prop where
  first_le : run.first ≤ code
  le_last : code ≤ run.last
  step : (code - run.first) % run.step = 0

/-- Where a run moves a code point. -/
def target (run : CaseRun) (code : Nat) : Nat :=
  ((code : Int) + run.distance).toNat

/-- Whether nothing that a run leads to is moved by another one: they lie apart, or both take every second code point and not the same ones. -/
def misses (run other : CaseRun) : Bool :=
  (run.target run.last).blt other.first || other.last.blt (run.target run.first) ||
    (other.step == 2 && (run.step == 2 || run.first == run.last) &&
      run.target run.first % 2 != other.first % 2)

variable {run other : CaseRun} {code : Nat}

theorem Has.target_bounds (h : run.Has code) :
    run.target run.first ≤ run.target code ∧ run.target code ≤ run.target run.last := by
  obtain ⟨hfirst, hlast, -⟩ := h
  rw [target, target, target]
  omega

theorem Has.not_has_target (h : run.Has code) (hdistance : 0 ≤ (run.first : Int) + run.distance)
    (hmisses : run.misses other = true) : ¬ other.Has (run.target code) := by
  rintro ⟨hfirst, hlast, hstep⟩
  obtain ⟨hlow, hhigh⟩ := h.target_bounds
  simp only [misses, Bool.or_eq_true, Nat.blt_eq, Bool.and_eq_true, beq_iff_eq, bne_iff_ne] at hmisses
  rcases hmisses with (hbelow | habove) | ⟨⟨hother, hrun⟩, hodd⟩
  · omega
  · omega
  · -- the step from the first code point of the run is even, and so is the one that it leads to
    obtain ⟨hbegin, hend, heven⟩ := h
    have hparity : (code - run.first) % 2 = 0 := by
      rcases hrun with htwo | hsingle
      · rwa [htwo] at heven
      · omega
    rw [hother] at hstep
    rw [target] at hfirst hstep hodd
    omega

end CaseRun

theorem lowercaseDistance_cases (runs : List CaseRun) (code : Nat) :
    lowercaseDistance runs code = 0 ∨
      ∃ run ∈ runs, run.Has code ∧ lowercaseDistance runs code = run.distance := by
  induction runs with
  | nil => exact .inl rfl
  | cons run rest ih =>
    rw [lowercaseDistance]
    split
    · exact .inl rfl
    next hfirst =>
      split
      next hmoved =>
        rw [Bool.and_eq_true, decide_eq_true_iff, beq_iff_eq] at hmoved
        exact .inr ⟨run, List.mem_cons_self, ⟨Nat.le_of_not_lt hfirst, hmoved.1, hmoved.2⟩, rfl⟩
      · exact ih.imp id fun ⟨run, hrun, hfound⟩ => ⟨run, List.mem_cons_of_mem _ hrun, hfound⟩

/-! ### What the tables hold -/

/-- The capital I with a dot above, the one letter that becomes two characters. -/
def dottedCapital : Char := '\u0130'

def dotAbove : Char := '\u0307'

/-- A run that leads to letters, none of which another run moves and none of which is the dotted capital. -/
def CaseRun.settles (run : CaseRun) : Bool :=
  decide (0 ≤ (run.first : Int) + run.distance) &&
    alphanumericRanges.spans (run.target run.first) (run.target run.last) &&
    lowercaseRuns.all run.misses && run.misses ⟨0x130, 0x130, 1, 0⟩

/-- White space and letters are apart, letters are characters, and every run leads to letters that stay as they are. -/
theorem tables_agree :
    blankRanges.apart alphanumericRanges = true ∧ alphanumericRanges.valid = true ∧
      lowercaseRuns.all CaseRun.settles = true := by
  decide +kernel

variable {c : Char}

theorem isBlank_of_isAlphanumeric (h : isAlphanumeric c = true) : isBlank c = false := by
  refine Bool.eq_false_iff.2 fun hblank => ?_
  have hnone := CharRanges.has_eq_false_of_apart tables_agree.1 hblank
  rw [isAlphanumeric, hnone] at h
  cases h

/-- A letter or number that is its own lower case. -/
structure Settled (c : Char) : Prop where
  isAlphanumeric : isAlphanumeric c = true
  lowercaseChar : lowercaseChar c = [c]

theorem Settled.ne_dotAbove (h : Settled c) : c ≠ dotAbove := by
  rintro rfl
  cases h.isAlphanumeric

theorem lowercaseChar_of_distance (hdotted : c.toNat ≠ 0x130) (h : lowercaseDistance lowercaseRuns c.toNat = 0) :
    lowercaseChar c = [c] := by
  rw [lowercaseChar, if_neg hdotted, h, Int.add_zero, Int.toNat_natCast, Char.ofNat_toNat]

/-- What a run leads to is settled. -/
theorem CaseRun.settled_target {run : CaseRun} {code : Nat} (hrun : run ∈ lowercaseRuns) (hcode : run.Has code) :
    Settled (Char.ofNat (run.target code)) := by
  have hsettles := List.all_eq_true.1 tables_agree.2.2 run hrun
  rw [settles, Bool.and_eq_true, Bool.and_eq_true, Bool.and_eq_true, decide_eq_true_iff] at hsettles
  obtain ⟨⟨⟨hdistance, hspans⟩, hmisses⟩, hdotted⟩ := hsettles
  obtain ⟨hlow, hhigh⟩ := hcode.target_bounds
  have hletter : alphanumericRanges.has (run.target code) = true := CharRanges.has_of_spans hspans hlow hhigh
  have htoNat : (Char.ofNat (run.target code)).toNat = run.target code := by
    rw [Char.ofNat, dif_pos (CharRanges.isValidChar_of_valid tables_agree.2.1 hletter)]
    rfl
  refine ⟨by rw [isAlphanumeric, htoNat, hletter], lowercaseChar_of_distance ?_ ?_⟩
  · intro hsame
    rw [htoNat] at hsame
    exact hcode.not_has_target hdistance hdotted ⟨Nat.le_of_eq hsame.symm, Nat.le_of_eq hsame, Nat.mod_one _⟩
  · rw [htoNat]
    rcases lowercaseDistance_cases lowercaseRuns (run.target code) with hzero | ⟨other, hother, hmoved, -⟩
    · exact hzero
    · exact absurd hmoved (hcode.not_has_target hdistance (List.all_eq_true.1 hmisses other hother))

/-- The lower case of a letter or number is one that is its own lower case, save for the dotted capital. -/
theorem lowercaseChar_cases (h : isAlphanumeric c = true) :
    (c = dottedCapital ∧ lowercaseChar c = ['i', dotAbove]) ∨
      (c ≠ dottedCapital ∧ ∃ d, lowercaseChar c = [d] ∧ Settled d) := by
  by_cases hdotted : c.toNat = 0x130
  · have hc : c = dottedCapital := by
      rw [← Char.ofNat_toNat c, hdotted]
      rfl
    subst c
    exact .inl ⟨rfl, rfl⟩
  · refine .inr ⟨fun hc => hdotted (by rw [hc]; rfl), ?_⟩
    rcases lowercaseDistance_cases lowercaseRuns c.toNat with hzero | ⟨run, hrun, hmoved, hdistance⟩
    · have hself := lowercaseChar_of_distance hdotted hzero
      exact ⟨c, hself, h, hself⟩
    · refine ⟨Char.ofNat (run.target c.toNat), ?_, run.settled_target hrun hmoved⟩
      rw [lowercaseChar, if_neg hdotted, hdistance]
      rfl

theorem exists_mem_lowercaseChar (h : isAlphanumeric c = true) : ∃ d ∈ lowercaseChar c, isAlphanumeric d = true := by
  rcases lowercaseChar_cases h with ⟨-, hpair⟩ | ⟨-, d, hsingle, hsettled⟩
  · rw [hpair]
    exact ⟨'i', List.mem_cons_self, rfl⟩
  · rw [hsingle]
    exact ⟨d, List.mem_singleton_self d, hsettled.isAlphanumeric⟩

end GuardedPlan.Text
