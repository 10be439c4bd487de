import GuardedPlan.Proofs.Path.Segments

/-!
# Contained paths

A contained path does not begin at the root and has no segment that climbs, so below a directory it adds its names to the segments of the directory. The directory that holds a path is spelled by a beginning of the path.
-/

namespace GuardedPlan.Path

/-! ### Segments that do not climb -/

/-- Without backslashes in it, a part between slashes is a part between separators of either kind. -/
private theorem mem_parts_of_mem_splitOn {chars part : List Char} (h : part ∈ chars.splitOn '/') (hpart : '\\' ∉ part) :
    part ∈ parts chars := by
  -- the induction tells the first part from the others, since a later character may still extend it
  have hsplit : ∃ first rest first' rest', chars.splitOn '/' = first :: rest ∧ parts chars = first' :: rest' ∧
      ('\\' ∉ first → first' = first) ∧ ∀ other ∈ rest, '\\' ∉ other → other ∈ rest' := by
    clear h
    induction chars with
    | nil => exact ⟨[], [], [], [], rfl, rfl, fun _ => rfl, by simp⟩
    | cons c rest ih =>
      obtain ⟨first, others, first', others', hslash, hboth, hfirst, hothers⟩ := ih
      have hall : ∀ other ∈ first :: others, '\\' ∉ other → other ∈ first' :: others' := by
        intro other hother hplain
        rcases List.mem_cons.1 hother with rfl | hother
        · rw [hfirst hplain]
          exact List.mem_cons_self
        · exact List.mem_cons_of_mem _ (hothers other hother hplain)
      rw [List.splitOn_cons_eq_if_modifyHead, hslash, parts, List.splitOnP_cons_eq_if_modifyHead, ← parts, hboth]
      by_cases hc : c = '/'
      · subst c
        exact ⟨[], first :: others, [], first' :: others', rfl, rfl, fun _ => rfl, hall⟩
      · by_cases hback : c = '\\'
        · subst c
          refine ⟨'\\' :: first, others, [], first' :: others', rfl, rfl, ?_, ?_⟩
          · intro hplain
            exact absurd List.mem_cons_self hplain
          · intro other hother hplain
            exact List.mem_cons_of_mem _ (hothers other hother hplain)
        · refine ⟨c :: first, others, c :: first', others', ?_, ?_, ?_, hothers⟩
          · simp [hc]
          · simp [hc, hback]
          · intro hplain
            rw [hfirst (List.not_mem_of_not_mem_cons hplain)]
  obtain ⟨first, rest, first', rest', hslash, hboth, hfirst, hrest⟩ := hsplit
  rw [hslash] at h
  rw [hboth]
  rcases List.mem_cons.1 h with rfl | h
  · rw [hfirst hpart]
    exact List.mem_cons_self
  · exact List.mem_cons_of_mem _ (hrest part h hpart)

theorem isContained_iff {path : String} :
    isContained path = true ↔ path.toList ≠ [] ∧ isRooted path.toList = false ∧ hasDrive path.toList = false ∧
      ['.', '.'] ∉ parts path.toList := by
  simp [isContained, and_assoc]

theorem climb_not_mem_segments {path : String} (h : isContained path = true) : ".." ∉ segments path := by
  intro hclimb
  obtain ⟨part, hpart, hdots⟩ := List.mem_map.1 hclimb
  have hchars : part = ['.', '.'] := by
    rw [← String.toList_ofList (l := part), hdots]
    rfl
  subst part
  exact (isContained_iff.1 h).2.2.2 (mem_parts_of_mem_splitOn hpart (by decide))

theorem head_ne_slash {path : String} (h : isContained path = true) : path.toList.head? ≠ some '/' := by
  have hrooted := (isContained_iff.1 h).2.1
  intro hslash
  cases hchars : path.toList with
  | nil => simp [hchars] at hslash
  | cons c rest =>
    rw [hchars] at hslash hrooted
    cases hslash
    cases hrooted

/-! ### Names of entries -/

/-- A name that an entry of a directory may have. -/
def IsEntryName (name : String) : Prop :=
  isName name = true ∧ name ≠ ".." ∧ '/' ∉ name.toList

/-- A way down from a directory, by at least one name. -/
def IsDescent (way : List String) : Prop :=
  way ≠ [] ∧ ∀ name ∈ way, IsEntryName name

theorem names_of_isEntryName {name : String} (h : IsEntryName name) : names [name] = [name] := by
  rw [names_eq, segments_of_slash_not_mem h.2.2, List.filter_cons_of_pos h.1, List.filter_nil]

theorem isEntryName_of_mem_names {path name : String} (h : isContained path = true) (hname : name ∈ names [path]) :
    IsEntryName name := by
  refine ⟨isName_of_mem_names hname, ?_, slash_not_mem_of_mem_names hname⟩
  rintro rfl
  rw [names_eq] at hname
  exact climb_not_mem_segments h (List.mem_filter.1 hname).1

/-! ### Below a directory -/

theorem segments_append_slash (first second : List Char) :
    segments (String.ofList (first ++ '/' :: second)) = segments (String.ofList first) ++ segments (String.ofList second) := by
  simp only [segments, String.toList_ofList, List.splitOn_append_cons_self, List.map_append]

theorem segments_eq_append_iff {path first rest : String} :
    segments path = segments first ++ segments rest ↔ path.toList = first.toList ++ '/' :: rest.toList := by
  have hsegments := segments_append_slash first.toList rest.toList
  rw [String.ofList_toList, String.ofList_toList] at hsegments
  rw [← hsegments]
  constructor
  · intro h
    rw [segments_inj h, String.toList_ofList]
  · intro h
    rw [← h, String.ofList_toList]

theorem below_cases (directory path : String) (h : directory ≠ "") :
    ∃ lead, (below directory path).toList = lead ++ '/' :: path.toList ∧
      (directory.toList = lead ∨ directory.toList = lead ++ ['/']) := by
  rw [below, if_neg h]
  by_cases hslash : directory.toList.getLast? = some '/'
  · obtain ⟨lead, hlead⟩ := List.getLast?_eq_some_iff.1 hslash
    refine ⟨lead, ?_, .inr hlead⟩
    rw [if_pos hslash, String.toList_append, hlead]
    simp
  · refine ⟨directory.toList, ?_, .inl rfl⟩
    rw [if_neg hslash, String.toList_append, String.toList_append]
    simp

/-- The segments of a path below a directory are those of the directory, without an empty last one, and then those of the path. -/
theorem segments_below (directory path : String) (h : directory ≠ "") :
    ∃ lead, segments (below directory path) = lead ++ segments path ∧
      (segments directory = lead ∨ segments directory = lead ++ [""]) := by
  obtain ⟨lead, hbelow, hdirectory⟩ := below_cases directory path h
  refine ⟨segments (String.ofList lead), ?_, ?_⟩
  · rw [← String.ofList_toList (s := below directory path), hbelow, segments_append_slash, String.ofList_toList]
  · rcases hdirectory with hsame | hslash
    · left
      rw [← hsame, String.ofList_toList]
    · right
      rw [← String.ofList_toList (s := directory), hslash, segments_append_slash]
      rfl

theorem below_ne_empty (directory : String) {path : String} (h : path ≠ "") : below directory path ≠ "" := by
  by_cases hdirectory : directory = ""
  · rwa [below, if_pos hdirectory]
  · obtain ⟨lead, hbelow, -⟩ := below_cases directory path hdirectory
    intro hempty
    rw [hempty] at hbelow
    simp at hbelow

theorem head_below (directory path : String) (h : directory ≠ "") :
    (below directory path).toList.head? = directory.toList.head? := by
  obtain ⟨lead, hbelow, hsame | hslash⟩ := below_cases directory path h
  · have hsome : lead ≠ [] := by
      intro hnil
      rw [hnil] at hsame
      exact h (String.toList_eq_nil_iff.1 hsame)
    rw [hbelow, hsame, List.head?_append, List.head?_eq_some_head hsome, Option.some_or]
  · cases lead with
    | nil => rw [hbelow, hslash]; rfl
    | cons c rest => rw [hbelow, hslash]; rfl

/-! ### The directory that holds a path -/

/-- What is left of a path was cut off at a slash, unless it is the root or nothing was cut off. -/
theorem dropTailReversed_cases (chars : List Char) :
    ∃ dropped, chars = dropped ++ dropTailReversed chars ∧
      (dropped = [] ∨ dropped.getLast? = some '/' ∨ dropTailReversed chars = ['/']) := by
  fun_induction dropTailReversed chars with
  | case1 c rest ih =>
    obtain ⟨dropped, hchars, hcut⟩ := ih
    refine ⟨'/' :: dropped, by rw [List.cons_append, ← hchars], .inr ?_⟩
    rcases hcut with rfl | hlast | hroot
    · exact .inl rfl
    · left
      rw [List.getLast?_cons, hlast]
      rfl
    · exact .inr hroot
  | case2 rest hempty =>
    have hnil : rest = [] := List.isEmpty_iff.1 hempty
    exact ⟨['.'], by rw [hnil]; rfl, .inr (.inr rfl)⟩
  | case3 rest hsome ih =>
    obtain ⟨dropped, hchars, hcut⟩ := ih
    refine ⟨'.' :: '/' :: dropped, by rw [List.cons_append, List.cons_append, ← hchars], .inr ?_⟩
    rcases hcut with rfl | hlast | hroot
    · exact .inl rfl
    · left
      rw [List.getLast?_cons, List.getLast?_cons, hlast]
      rfl
    · exact .inr hroot
  | case4 path => exact ⟨[], rfl, .inl rfl⟩

/-- What is left of a path ends in a slash only at the root. -/
theorem dropTailReversed_of_slash (chars rest : List Char) (h : dropTailReversed chars = '/' :: rest) : rest = [] := by
  fun_induction dropTailReversed chars with
  | case1 c others ih => exact ih h
  | case2 others hempty => exact (List.cons.inj h).2.symm
  | case3 others hsome ih => exact ih h
  | case4 path hslash hdot =>
    cases rest with
    | nil => rfl
    | cons c others => exact absurd h (hslash c others)

theorem dropTail_cases (chars : List Char) :
    dropTail chars = ['/'] ∨ dropTail chars = chars ∨ ∃ rest, chars = dropTail chars ++ '/' :: rest := by
  obtain ⟨dropped, hchars, hcut⟩ := dropTailReversed_cases chars.reverse
  have hsplit : chars = dropTail chars ++ dropped.reverse := by
    rw [dropTail, ← List.reverse_append, ← hchars, List.reverse_reverse]
  rcases hcut with rfl | hlast | hroot
  · right
    left
    rw [List.reverse_nil, List.append_nil] at hsplit
    exact hsplit.symm
  · right
    right
    obtain ⟨before, hbefore⟩ := List.getLast?_eq_some_iff.1 hlast
    refine ⟨before.reverse, ?_⟩
    rw [hbefore, List.reverse_append] at hsplit
    exact hsplit
  · left
    rw [dropTail, hroot]
    rfl

theorem dropTail_prefix (chars : List Char) (h : dropTail chars ≠ ['/']) : dropTail chars <+: chars := by
  rcases dropTail_cases chars with hroot | hsame | ⟨rest, hcut⟩
  · exact absurd hroot h
  · exact ⟨[], by rw [List.append_nil, hsame]⟩
  · exact ⟨_, hcut.symm⟩

/-- The directory that holds a path is the root, or nothing of the path, or what stands before one of its slashes. -/
theorem parent?_cases {path parent : String} (h : parent? path = some parent) :
    parent = "" ∨ parent = "/" ∨ ∃ rest, path.toList = parent.toList ++ '/' :: rest := by
  unfold parent? at h
  split at h
  · cases h
  · cases h
  · rename_i hroot
    obtain ⟨more, hmore⟩ := dropTail_prefix path.toList hroot
    have hparent := (Option.some.inj h).symm
    generalize hlast : (dropTail path.toList).reverse.dropWhile (· ≠ '/') = last at hparent
    subst hparent
    obtain ⟨name, hname⟩ : last.reverse <+: dropTail path.toList := by
      rw [← List.reverse_suffix, List.reverse_reverse, ← hlast]
      exact List.dropWhile_suffix _
    rw [String.toList_ofList]
    rcases dropTail_cases last.reverse with hslash | hsame | ⟨rest, hcut⟩
    · right
      left
      rw [hslash]
    · -- nothing was cut off although the rest ends in a slash, so it is the root or empty
      cases last with
      | nil =>
        left
        rw [hsame]
        rfl
      | cons c others =>
        have hc : c = '/' := by
          have hstops := List.head?_dropWhile_not (· ≠ '/') (dropTail path.toList).reverse
          rw [hlast] at hstops
          simpa using hstops
        subst c
        have hnil : others = [] := by
          refine dropTailReversed_of_slash ('/' :: others) others ?_
          rw [dropTail, List.reverse_reverse] at hsame
          exact List.reverse_inj.1 hsame
        subst others
        right
        left
        rw [hsame]
        rfl
    · right
      right
      refine ⟨rest ++ name ++ more, ?_⟩
      rw [← hmore, ← hname]
      conv => lhs; rw [hcut]
      simp

end GuardedPlan.Path
