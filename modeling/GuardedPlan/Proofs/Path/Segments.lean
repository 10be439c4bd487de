import GuardedPlan.Path

/-!
# Paths and their segments

A path is its segments with slashes between them, and segments without slashes are those of the path they are joined to. So the canonical form of a path, which keeps the segments that name something, can be compared with the path segment by segment. It has the names of the path and no others, which is why joining in parts or a second time makes no difference.
-/

namespace GuardedPlan.Path

theorem intercalate_segments (path : String) : "/".intercalate (segments path) = path := by
  rw [← String.toList_inj, String.toList_intercalate, segments, List.map_map]
  have hid : (String.toList ∘ String.ofList : List Char → List Char) = id := by
    funext chars
    exact String.toList_ofList
  rw [hid, List.map_id]
  exact List.intercalate_splitOn '/'

theorem segments_inj {first second : String} (h : segments first = segments second) : first = second := by
  rw [← intercalate_segments first, h, intercalate_segments]

theorem segments_ne_nil (path : String) : segments path ≠ [] := by
  simp [segments]

theorem segments_intercalate {parts : List String} (hparts : ∀ part ∈ parts, '/' ∉ part.toList) (hsome : parts ≠ []) :
    segments ("/".intercalate parts) = parts := by
  have hslash : "/".toList = ['/'] := rfl
  rw [segments, String.toList_intercalate, hslash, List.splitOn_intercalate '/' (by simpa using hparts) (by simpa using hsome),
    List.map_map]
  have hid : (String.ofList ∘ String.toList : String → String) = id := by
    funext text
    exact String.ofList_toList
  rw [hid, List.map_id]

private theorem not_mem_of_mem_splitOn {chars part : List Char} (h : part ∈ chars.splitOn '/') : '/' ∉ part := by
  induction chars generalizing part with
  | nil =>
    rw [List.splitOn_nil, List.mem_singleton] at h
    simp [h]
  | cons c rest ih =>
    rw [List.splitOn_cons_eq_if_modifyHead] at h
    by_cases hc : c = '/'
    · rw [if_pos (by simpa using hc)] at h
      rcases List.mem_cons.1 h with rfl | h
      · simp
      · exact ih h
    · rw [if_neg (by simpa using hc)] at h
      cases hparts : rest.splitOn '/' with
      | nil => simp [hparts] at h
      | cons first others =>
        rw [hparts, List.modifyHead_cons] at h
        rw [hparts] at ih
        rcases List.mem_cons.1 h with rfl | h
        · simp [Ne.symm hc, ih List.mem_cons_self]
        · exact ih (List.mem_cons_of_mem _ h)

theorem slash_not_mem_of_mem_segments {path segment : String} (h : segment ∈ segments path) : '/' ∉ segment.toList := by
  obtain ⟨part, hpart, rfl⟩ := List.mem_map.1 h
  rw [String.toList_ofList]
  exact not_mem_of_mem_splitOn hpart

theorem segments_of_slash_not_mem {name : String} (h : '/' ∉ name.toList) : segments name = [name] := by
  have hsingle : segments ("/".intercalate [name]) = [name] := segments_intercalate (by simpa using h) (by simp)
  rwa [String.intercalate_singleton] at hsingle

theorem segments_slash (first second : List Char) (h : '/' ∉ first) :
    segments (String.ofList (first ++ '/' :: second)) = String.ofList first :: segments (String.ofList second) := by
  simp only [segments, String.toList_ofList, List.splitOn_append_cons_self_of_not_mem h, List.map_cons]

/-! ### Names -/

theorem isName_iff {segment : String} : isName segment = true ↔ segment ≠ "" ∧ segment ≠ "." := by
  simp [isName]

theorem names_eq (path : String) : names [path] = (segments path).filter isName := by
  rw [names, List.flatMap_singleton]

theorem names_append (first second : List String) : names (first ++ second) = names first ++ names second := by
  rw [names, List.flatMap_append, List.filter_append, ← names, ← names]

theorem isName_of_mem_names {fragments : List String} {name : String} (h : name ∈ names fragments) :
    isName name = true :=
  (List.mem_filter.1 h).2

theorem slash_not_mem_of_mem_names {fragments : List String} {name : String} (h : name ∈ names fragments) :
    '/' ∉ name.toList := by
  obtain ⟨fragment, _, hsegment⟩ := List.mem_flatMap.1 (List.mem_filter.1 h).1
  exact slash_not_mem_of_mem_segments hsegment

theorem join_of_names_ne_nil {fragments : List String} (h : names fragments ≠ []) :
    join fragments = "/".intercalate (names fragments) := by
  unfold join
  split
  · contradiction
  · rfl

/-- The segments of a canonical path are its names. -/
theorem segments_join {fragments : List String} (h : names fragments ≠ []) :
    segments (join fragments) = names fragments := by
  rw [join_of_names_ne_nil h]
  exact segments_intercalate (fun _ hname => slash_not_mem_of_mem_names hname) h

/-! ### Canonical forms -/

/-- The canonical form keeps the names and nothing else. -/
theorem names_join (fragments : List String) : names [join fragments] = names fragments := by
  by_cases h : names fragments = []
  · have hdot : join fragments = "." := by rw [join, h]
    rw [hdot, h]
    decide
  · rw [names_eq, segments_join h, List.filter_eq_self.2 fun _ => isName_of_mem_names]

theorem join_congr {first second : List String} (h : names first = names second) : join first = join second := by
  rw [join, join, h]

/-- A canonical form is a lone dot, or the names with slashes between them. -/
theorem join_cases (fragments : List String) :
    join fragments = "." ∨ names fragments ≠ [] ∧ join fragments = "/".intercalate (names fragments) := by
  by_cases h : names fragments = []
  · left
    rw [join, h]
  · exact .inr ⟨h, join_of_names_ne_nil h⟩

/-- Fragments may be joined in parts, and what is joined stays as it is: a lone dot, or segments that name something with slashes between them. Two lists of fragments have the same canonical form exactly if they have the same segments, apart from those that name nothing. -/
theorem join_canonical (first second : List String) :
    join (first ++ second) = join [join first, join second] ∧
    join [join first] = join first ∧
    (join first = "." ∨ ∃ parts, parts ≠ [] ∧ (∀ part ∈ parts, '/' ∉ part.toList ∧ part ≠ "" ∧ part ≠ ".") ∧
      join first = "/".intercalate parts) ∧
    (join first = join second ↔
      (first.flatMap segments).filter isName = (second.flatMap segments).filter isName) := by
  refine ⟨?_, join_congr (names_join first), ?_, ?_, join_congr⟩
  · refine join_congr ?_
    have hparts : names [join first, join second] = names [join first] ++ names [join second] := names_append [_] [_]
    rw [hparts, names_join, names_join, names_append]
  · refine (join_cases first).imp_right fun ⟨hsome, hjoin⟩ => ⟨names first, hsome, fun part hpart => ?_, hjoin⟩
    exact ⟨slash_not_mem_of_mem_names hpart, isName_iff.1 (isName_of_mem_names hpart)⟩
  · intro h
    have hnames : names first = names second := by rw [← names_join first, h, names_join]
    exact hnames

/-! ### Leading dots -/

/-- Leading dots name nothing. -/
theorem names_normalize (path : String) : names [normalize path] = names [path] := by
  have hdrop : ∀ chars : List Char, names [String.ofList (dropDots chars)] = names [String.ofList chars] := by
    intro chars
    fun_induction dropDots chars with
    | case1 rest ih =>
      rw [ih, names_eq, names_eq]
      have hsegments : segments (String.ofList ('.' :: '/' :: rest)) = "." :: segments (String.ofList rest) :=
        segments_slash ['.'] rest (by decide)
      rw [hsegments, List.filter_cons_of_neg (by decide)]
    | case2 chars _ => rfl
  rw [normalize, hdrop, String.ofList_toList]

/-- A path whose segments are names has no leading dots. -/
theorem normalize_of_isName {path : String} (h : ∀ segment ∈ segments path, isName segment = true) :
    normalize path = path := by
  rw [normalize]
  unfold dropDots
  split
  · rename_i rest hchars
    have hsegments : segments path = "." :: segments (String.ofList rest) := by
      rw [← String.ofList_toList (s := path), hchars]
      exact segments_slash ['.'] rest (by decide)
    have hdot : isName "." = true := h "." (by simp [hsegments])
    exact absurd hdot (by decide)
  · exact String.ofList_toList

theorem normalize_join {fragments : List String} (h : names fragments ≠ []) : normalize (join fragments) = join fragments := by
  refine normalize_of_isName fun segment hsegment => ?_
  rw [segments_join h] at hsegment
  exact isName_of_mem_names hsegment

/-- What policies look at is the canonical form exactly when, past the leading dots, every segment names something. -/
theorem normalize_eq_join_iff {path : String} (h : names [path] ≠ []) :
    normalize path = join [path] ↔ ∀ segment ∈ segments (normalize path), isName segment = true := by
  constructor
  · intro hcanonical segment hsegment
    rw [hcanonical, segments_join h] at hsegment
    exact isName_of_mem_names hsegment
  · intro hnames
    have hsegments : names [path] = segments (normalize path) := by
      rw [← names_normalize, names_eq, List.filter_eq_self.2 hnames]
    rw [join_of_names_ne_nil h, hsegments, intercalate_segments]

end GuardedPlan.Path
