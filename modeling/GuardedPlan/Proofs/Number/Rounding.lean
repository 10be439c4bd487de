import GuardedPlan.Number.Binary64
import Mathlib.Tactic.Ring

/-!
# Rounding keeps the order

The floating-point number nearest to a fraction does not decrease when the fraction grows: between two neighbouring powers of two because a half goes to the even side whatever it comes from, and across a power of two because the power itself is representable.
-/

namespace GuardedPlan

section

variable {num den more other : Nat}

theorem roundHalfEven_cases (num den : Nat) :
    roundHalfEven num den = num / den ∧
      (2 * (num % den) < den ∨ 2 * (num % den) = den ∧ num / den % 2 = 0) ∨
    roundHalfEven num den = num / den + 1 ∧
      (den < 2 * (num % den) ∨ 2 * (num % den) = den ∧ num / den % 2 = 1) := by
  rw [roundHalfEven]
  split
  · exact .inl ⟨rfl, .inl (by assumption)⟩
  · split
    · exact .inr ⟨rfl, .inl (by assumption)⟩
    · split
      · exact .inl ⟨rfl, .inr (by omega)⟩
      · exact .inr ⟨rfl, .inr (by omega)⟩

/-- A whole number is below the rounded quotient if half of the step to the next one is passed, or just reached from an odd number. -/
theorem lt_roundHalfEven_iff (hden : 0 < den) {k : Nat} :
    k < roundHalfEven num den ↔ (2 * k + 1) * den < 2 * num ∨ (2 * k + 1) * den = 2 * num ∧ k % 2 = 1 := by
  have hnum := Nat.div_add_mod num den
  have hmod := Nat.mod_lt num hden
  have hround := roundHalfEven_cases num den
  have hstep : (2 * k + 1) * den = 2 * (den * k) + den := by ring
  rw [hstep]
  generalize num / den = quotient at *
  generalize num % den = rest at *
  rcases Nat.lt_trichotomy k quotient with hlt | rfl | hgt
  · have hbelow : den * k + den ≤ den * quotient := Nat.mul_le_mul_left den hlt
    omega
  · omega
  · have habove : den * quotient + den ≤ den * k := Nat.mul_le_mul_left den hgt
    omega

theorem roundHalfEven_mul (hden : 0 < den) (k : Nat) : roundHalfEven (k * den) den = k := by
  rw [roundHalfEven, Nat.mul_div_cancel k hden, Nat.mul_mod_left, Nat.mul_zero]
  exact if_pos hden

theorem roundHalfEven_mono (hden : 0 < den) (hother : 0 < other) (h : num * other ≤ more * den) :
    roundHalfEven num den ≤ roundHalfEven more other := by
  apply Nat.le_of_not_lt
  intro hlt
  generalize hk : roundHalfEven more other = k at hlt
  have hnot : ¬ k < roundHalfEven more other := by omega
  rw [lt_roundHalfEven_iff hother] at hnot
  have hscaled : 2 * num * other ≤ 2 * more * den := by
    rw [Nat.mul_assoc, Nat.mul_assoc]
    exact Nat.mul_le_mul_left 2 h
  have hswap : (2 * k + 1) * den * other = (2 * k + 1) * other * den := by ring
  rcases (lt_roundHalfEven_iff hden).1 hlt with hpassed | ⟨hmet, hodd⟩
  · -- what passes the half of the smaller fraction passes that of the larger one
    have hless := Nat.mul_lt_mul_of_pos_right hpassed hother
    exact hnot (.inl (Nat.lt_of_mul_lt_mul_right (a := den) (by omega)))
  · have hle := Nat.le_of_mul_le_mul_right (show (2 * k + 1) * other * den ≤ 2 * more * den by rw [← hswap, hmet]; exact hscaled) hden
    rcases Nat.lt_or_eq_of_le hle with hlt | heq
    · exact hnot (.inl hlt)
    · exact hnot (.inr ⟨heq, hodd⟩)

theorem roundHalfEven_le (hden : 0 < den) {k : Nat} (h : num ≤ k * den) : roundHalfEven num den ≤ k := by
  have hmono := roundHalfEven_mono hden hden (Nat.mul_le_mul_right den h)
  rwa [roundHalfEven_mul hden] at hmono

theorem le_roundHalfEven (hden : 0 < den) {k : Nat} (h : k * den ≤ num) : k ≤ roundHalfEven num den := by
  have hmono := roundHalfEven_mono hden hden (Nat.mul_le_mul_right den h)
  rwa [roundHalfEven_mul hden] at hmono

end

namespace Binary64

/-- The shift under which a number of that many least units has a significand of 53 bits. -/
def shiftOf (quotient : Nat) : Nat :=
  if quotient < Nat.pow 2 53 then 0 else Nat.log2 quotient - 52

theorem shiftOf_spec (quotient : Nat) :
    quotient < Nat.pow 2 (53 + shiftOf quotient) ∧
      (shiftOf quotient = 0 ∨ Nat.pow 2 (52 + shiftOf quotient) ≤ quotient) := by
  rw [shiftOf]
  split
  case isTrue hsmall => exact ⟨hsmall, .inl rfl⟩
  case isFalse hlarge =>
    have hle : Nat.pow 2 53 ≤ quotient := Nat.le_of_not_lt hlarge
    have hne : quotient ≠ 0 := Nat.ne_of_gt (Nat.lt_of_lt_of_le (Nat.two_pow_pos 53) hle)
    have hlog : 53 ≤ Nat.log2 quotient := (Nat.le_log2 hne).2 hle
    have hlow : 52 + (Nat.log2 quotient - 52) = Nat.log2 quotient := by omega
    have hhigh : 53 + (Nat.log2 quotient - 52) = Nat.log2 quotient + 1 := by omega
    rw [hlow, hhigh]
    exact ⟨Nat.lt_log2_self, .inr (Nat.log2_self_le hne)⟩

theorem shiftOf_mono {quotient larger : Nat} (h : quotient ≤ larger) : shiftOf quotient ≤ shiftOf larger := by
  rcases (shiftOf_spec quotient).2 with hzero | hlow
  · omega
  · have hpow : Nat.pow 2 (52 + shiftOf quotient) < Nat.pow 2 (53 + shiftOf larger) :=
      Nat.lt_of_le_of_lt (Nat.le_trans hlow h) (shiftOf_spec larger).1
    have hexp := (Nat.pow_lt_pow_iff_right (a := 2) (by decide)).1 hpow
    omega

theorem pow_add (m n : Nat) : Nat.pow 2 (m + n) = Nat.pow 2 m * Nat.pow 2 n :=
  Nat.pow_add 2 m n

section

variable {num den more other : Nat}

theorem scaled_pos (hden : 0 < den) (shift : Nat) : 0 < den * Nat.pow 2 shift :=
  Nat.mul_pos hden (Nat.two_pow_pos shift)

/-- The significand does not pass the power of two above it. -/
theorem significand_le (hden : 0 < den) :
    roundHalfEven num (den * Nat.pow 2 (shiftOf (num / den))) ≤ Nat.pow 2 53 := by
  have hbelow := (shiftOf_spec (num / den)).1
  rw [Nat.div_lt_iff_lt_mul hden, pow_add] at hbelow
  apply roundHalfEven_le (scaled_pos hden _)
  rw [Nat.mul_comm den, ← Nat.mul_assoc]
  exact Nat.le_of_lt hbelow

theorem le_significand (hden : 0 < den) (hshift : shiftOf (num / den) ≠ 0) :
    Nat.pow 2 52 ≤ roundHalfEven num (den * Nat.pow 2 (shiftOf (num / den))) := by
  have habove := (shiftOf_spec (num / den)).2.resolve_left hshift
  rw [Nat.le_div_iff_mul_le hden, pow_add] at habove
  apply le_roundHalfEven (scaled_pos hden _)
  rwa [Nat.mul_comm den, ← Nat.mul_assoc]

theorem div_mono (hden : 0 < den) (hother : 0 < other) (h : num * other ≤ more * den) : num / den ≤ more / other := by
  rw [Nat.le_div_iff_mul_le hother]
  apply Nat.le_of_mul_le_mul_right (c := den) _ hden
  calc num / den * other * den = num / den * den * other := Nat.mul_right_comm _ _ _
    _ ≤ num * other := Nat.mul_le_mul_right other (Nat.div_mul_le_self num den)
    _ ≤ more * den := h

/-- The least units of the number nearest to a fraction of them. -/
def nearest (num den : Nat) : Nat :=
  roundHalfEven num (den * Nat.pow 2 (shiftOf (num / den))) * Nat.pow 2 (shiftOf (num / den))

theorem nearest_mono (hden : 0 < den) (hother : 0 < other) (h : num * other ≤ more * den) :
    nearest num den ≤ nearest more other := by
  rcases Nat.eq_or_lt_of_le (shiftOf_mono (div_mono hden hother h)) with hsame | hlt
  · rw [nearest, nearest, hsame]
    apply Nat.mul_le_mul_right
    apply roundHalfEven_mono (scaled_pos hden _) (scaled_pos hother _)
    rw [← Nat.mul_assoc, ← Nat.mul_assoc]
    exact Nat.mul_le_mul_right _ h
  · -- a power of two lies between the two, and neither is rounded past it
    have hlarge := @le_significand more other hother (by omega)
    calc nearest num den
      _ ≤ Nat.pow 2 53 * Nat.pow 2 (shiftOf (num / den)) := Nat.mul_le_mul_right _ (significand_le hden)
      _ = Nat.pow 2 52 * Nat.pow 2 (shiftOf (num / den) + 1) := by
        rw [Nat.add_comm (shiftOf (num / den)), pow_add, ← Nat.mul_assoc]
      _ ≤ Nat.pow 2 52 * Nat.pow 2 (shiftOf (more / other)) :=
        Nat.mul_le_mul_left _ (Nat.pow_le_pow_right (by decide) hlt)
      _ ≤ nearest more other := Nat.mul_le_mul_right _ hlarge

end

theorem one_lt_two_pow {n : Nat} (h : 1074 < n) : one < Nat.pow 2 n := by
  unfold one
  revert h
  generalize 1074 = exponent
  exact Nat.pow_lt_pow_right (by decide)

theorem shiftOf_le {quotient : Nat} (h : quotient ≤ one) : shiftOf quotient ≤ 1022 := by
  rcases (shiftOf_spec quotient).2 with hzero | hlow
  · omega
  · apply Nat.le_of_not_lt
    intro hlarge
    have hlt := one_lt_two_pow (n := 52 + shiftOf quotient) (by omega)
    exact absurd (Nat.le_trans hlow h) (Nat.not_le_of_lt hlt)

/-- The number with a rounded significand, which the rounding may have carried to the next power of two. -/
def rounded (negative : Bool) (significand shift : Nat) : Binary64 :=
  if significand = Nat.pow 2 53 then ⟨negative, Nat.pow 2 52, shift + 1⟩ else ⟨negative, significand, shift⟩

theorem rounded_spec (negative : Bool) (significand shift : Nat) :
    (rounded negative significand shift).negative = negative ∧
      (rounded negative significand shift).magnitude = significand * Nat.pow 2 shift ∧
      (rounded negative significand shift).shift ≤ shift + 1 := by
  rw [rounded]
  split
  case isTrue hcarry =>
    refine ⟨rfl, ?_, Nat.le_refl _⟩
    change Nat.pow 2 52 * Nat.pow 2 (shift + 1) = significand * Nat.pow 2 shift
    rw [hcarry, Nat.add_comm, pow_add, ← Nat.mul_assoc]
  case isFalse => exact ⟨rfl, rfl, Nat.le_succ shift⟩

theorem ofRatio?_eq (negative : Bool) (num den : Nat) :
    ofRatio? negative num den =
      if (rounded negative (roundHalfEven (num * one) (den * Nat.pow 2 (shiftOf (num * one / den))))
        (shiftOf (num * one / den))).shift ≤ 2045
      then some (rounded negative (roundHalfEven (num * one) (den * Nat.pow 2 (shiftOf (num * one / den))))
        (shiftOf (num * one / den)))
      else none :=
  rfl

/-- A fraction of at most one has a nearest number. -/
theorem exists_ofRatio? (negative : Bool) {num den : Nat} (h : num ≤ den) :
    ∃ x, ofRatio? negative num den = some x ∧ x.negative = negative ∧ x.magnitude = nearest (num * one) den := by
  have hshift := shiftOf_le (Nat.div_le_of_le_mul (Nat.mul_le_mul_right one h))
  obtain ⟨hnegative, hmagnitude, hcarried⟩ := rounded_spec negative
    (roundHalfEven (num * one) (den * Nat.pow 2 (shiftOf (num * one / den)))) (shiftOf (num * one / den))
  have hfits := Nat.le_trans hcarried (Nat.succ_le_succ hshift)
  refine ⟨_, ?_, hnegative, hmagnitude⟩
  rw [ofRatio?_eq, if_pos (Nat.le_trans hfits (by decide))]

end Binary64

end GuardedPlan
