import GuardedPlan.Glob.BytePattern

/-!
# The language of a pattern

Matching by partial derivatives decides the bytes that a pattern describes. The derivatives after a byte describe exactly what may follow it, by recursion on the pattern; the matcher then walks along the bytes with the set of patterns that are left, and dropping one of two equal patterns loses nothing.
-/

namespace GuardedPlan.BytePattern

/-! ### What the constructors describe -/

@[simp] theorem denotes_empty_iff (bytes : List UInt8) : Denotes empty bytes ↔ bytes = [] := by
  constructor
  · rintro ⟨⟩
    rfl
  · rintro rfl
    exact .empty

@[simp] theorem denotes_one_iff (set : ByteSet) (bytes : List UInt8) :
    Denotes (one set) bytes ↔ ∃ byte, set.has byte = true ∧ bytes = [byte] := by
  constructor
  · rintro ⟨⟩
    exact ⟨_, ‹_›, rfl⟩
  · rintro ⟨byte, hbyte, rfl⟩
    exact .one hbyte

@[simp] theorem denotes_many_iff (set : ByteSet) (bytes : List UInt8) :
    Denotes (many set) bytes ↔ ∀ byte ∈ bytes, set.has byte = true := by
  constructor
  · rintro ⟨⟩
    assumption
  · exact .many

@[simp] theorem denotes_both_iff (first second : BytePattern) (bytes : List UInt8) :
    Denotes (both first second) bytes ↔
      ∃ left right, bytes = left ++ right ∧ Denotes first left ∧ Denotes second right := by
  constructor
  · rintro ⟨⟩
    exact ⟨_, _, rfl, ‹_›, ‹_›⟩
  · rintro ⟨left, right, rfl, hleft, hright⟩
    exact .both hleft hright

@[simp] theorem denotes_either_iff (left right : BytePattern) (bytes : List UInt8) :
    Denotes (either left right) bytes ↔ Denotes left bytes ∨ Denotes right bytes := by
  constructor
  · rintro (⟨⟩ | ⟨⟩)
    · exact .inl ‹_›
    · exact .inr ‹_›
  · rintro (hleft | hright)
    · exact .left hleft
    · exact .right hright

/-! ### Derivatives -/

theorem isNullable_iff (pattern : BytePattern) : pattern.isNullable = true ↔ Denotes pattern [] := by
  induction pattern with
  | empty => simp [isNullable]
  | one set => simp [isNullable]
  | many set => simp [isNullable]
  | both first second ihFirst ihSecond =>
    rw [isNullable, Bool.and_eq_true, ihFirst, ihSecond, denotes_both_iff]
    constructor
    · rintro ⟨hfirst, hsecond⟩
      exact ⟨[], [], rfl, hfirst, hsecond⟩
    · rintro ⟨left, right, hnil, hfirst, hsecond⟩
      obtain ⟨rfl, rfl⟩ := List.append_eq_nil_iff.1 hnil.symm
      exact ⟨hfirst, hsecond⟩
  | either left right ihLeft ihRight => simp [isNullable, ihLeft, ihRight]

theorem denotes_followedBy_iff (first second : BytePattern) (bytes : List UInt8) :
    Denotes (first.followedBy second) bytes ↔ Denotes (both first second) bytes := by
  cases first with
  | empty =>
    rw [followedBy, denotes_both_iff]
    constructor
    · intro hsecond
      exact ⟨[], bytes, rfl, .empty, hsecond⟩
    · rintro ⟨left, right, rfl, hleft, hright⟩
      rw [(denotes_empty_iff left).1 hleft]
      exact hright
  | _ => exact Iff.rfl

/-- The byte is read by the first of two patterns, or by the second when the first reads nothing. -/
theorem denotes_both_cons_iff (first second : BytePattern) (byte : UInt8) (bytes : List UInt8) :
    Denotes (both first second) (byte :: bytes) ↔
      (∃ left right, bytes = left ++ right ∧ Denotes first (byte :: left) ∧ Denotes second right) ∨
        (Denotes first [] ∧ Denotes second (byte :: bytes)) := by
  rw [denotes_both_iff]
  constructor
  · rintro ⟨left, right, hbytes, hfirst, hsecond⟩
    rcases List.cons_eq_append_iff.1 hbytes with ⟨rfl, rfl⟩ | ⟨more, rfl, hrest⟩
    · exact .inr ⟨hfirst, hsecond⟩
    · exact .inl ⟨more, right, hrest, hfirst, hsecond⟩
  · rintro (⟨left, right, rfl, hfirst, hsecond⟩ | ⟨hfirst, hsecond⟩)
    · exact ⟨byte :: left, right, rfl, hfirst, hsecond⟩
    · exact ⟨[], byte :: bytes, rfl, hfirst, hsecond⟩

/-- A byte starts what a pattern describes when one of its derivatives describes the rest. -/
theorem denotes_cons_iff (pattern : BytePattern) (byte : UInt8) (bytes : List UInt8) :
    Denotes pattern (byte :: bytes) ↔ ∃ rest ∈ after byte pattern, Denotes rest bytes := by
  induction pattern generalizing bytes with
  | empty => simp [after]
  | one set =>
    simp only [denotes_one_iff, after, List.cons.injEq]
    constructor
    · rintro ⟨found, hfound, rfl, rfl⟩
      exact ⟨empty, by simp [hfound], .empty⟩
    · rintro ⟨rest, hrest, hbytes⟩
      cases hbyte : set.has byte <;> simp_all
  | many set => cases hbyte : set.has byte <;> simp [after, hbyte]
  | either left right ihLeft ihRight => simp [after, ihLeft, ihRight, or_and_right, exists_or]
  | both first second ihFirst ihSecond =>
    have hstay : (∃ left right, bytes = left ++ right ∧ Denotes first (byte :: left) ∧ Denotes second right) ↔
        ∃ rest ∈ (after byte first).map (fun rest => rest.followedBy second), Denotes rest bytes := by
      simp only [List.mem_map, ihFirst]
      constructor
      · rintro ⟨left, right, rfl, ⟨rest, hrest, hleft⟩, hright⟩
        exact ⟨_, ⟨rest, hrest, rfl⟩, (denotes_followedBy_iff _ _ _).2 (.both hleft hright)⟩
      · rintro ⟨_, ⟨rest, hrest, rfl⟩, hbytes⟩
        obtain ⟨left, right, hbytes, hleft, hright⟩ := (denotes_both_iff _ _ _).1 ((denotes_followedBy_iff _ _ _).1 hbytes)
        exact ⟨left, right, hbytes, ⟨rest, hrest, hleft⟩, hright⟩
    rw [denotes_both_cons_iff, hstay, ← isNullable_iff, ihSecond, after]
    cases first.isNullable <;> simp [or_and_right, exists_or]

theorem anyMatches_iff (states : List BytePattern) (bytes : List UInt8) :
    anyMatches states bytes = true ↔ ∃ pattern ∈ states, Denotes pattern bytes := by
  induction bytes generalizing states with
  | nil => simp only [anyMatches, List.any_eq_true, isNullable_iff]
  | cons byte rest ih =>
    rw [anyMatches, ih]
    simp only [List.mem_eraseDups, List.mem_flatMap, denotes_cons_iff]
    constructor
    · rintro ⟨next, ⟨pattern, hpattern, hnext⟩, hrest⟩
      exact ⟨pattern, hpattern, next, hnext, hrest⟩
    · rintro ⟨pattern, hpattern, next, hnext, hrest⟩
      exact ⟨next, ⟨pattern, hpattern, hnext⟩, hrest⟩

/-- The matcher decides the language of its pattern. -/
theorem accepts_iff (pattern : BytePattern) (bytes : List UInt8) :
    pattern.accepts bytes = true ↔ Denotes pattern bytes := by
  rw [accepts, anyMatches_iff]
  simp

/-! ### Given bytes -/

theorem has_only_iff {value byte : UInt8} : (ByteSet.only value).has byte = true ↔ byte = value := by
  simp only [ByteSet.has, ByteSet.only, List.any_cons, List.any_nil, Bool.or_false, Bool.bne_false, Bool.and_eq_true,
    decide_eq_true_eq]
  exact ⟨fun h => UInt8.le_antisymm h.2 h.1, fun h => h ▸ ⟨UInt8.le_refl _, UInt8.le_refl _⟩⟩

theorem has_segment_iff {byte : UInt8} : ByteSet.segment.has byte = true ↔ byte ≠ ByteSet.slashByte := by
  have hnegated : ByteSet.segment.has byte = !(ByteSet.only ByteSet.slashByte).has byte := by
    rw [ByteSet.has, ByteSet.has, ByteSet.segment, ByteSet.only, Bool.bne_true, Bool.bne_false]
  rw [hnegated, Bool.not_eq_true', ← Bool.not_eq_true, has_only_iff]

@[simp] theorem denotes_byte_iff (value : UInt8) (bytes : List UInt8) :
    Denotes (byte value) bytes ↔ bytes = [value] := by
  simp [byte, has_only_iff]

theorem denotes_sequence_byte_iff (values bytes : List UInt8) :
    Denotes (sequence (values.map byte)) bytes ↔ bytes = values := by
  induction values generalizing bytes with
  | nil => simp [sequence]
  | cons value rest ih =>
    cases rest with
    | nil => simp [sequence]
    | cons next more =>
      rw [List.map_cons, List.map_cons, sequence, ← List.map_cons, denotes_both_iff]
      simp only [denotes_byte_iff, ih]
      constructor
      · rintro ⟨left, right, rfl, rfl, rfl⟩
        rfl
      · rintro rfl
        exact ⟨[value], next :: more, rfl, rfl, rfl⟩
      · simp

end GuardedPlan.BytePattern
