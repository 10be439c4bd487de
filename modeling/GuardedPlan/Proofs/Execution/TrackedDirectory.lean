import GuardedPlan.Execution.Verdict
import GuardedPlan.Proofs.Glob.Literal
import GuardedPlan.Proofs.Path.Contained
import Mathlib.Data.List.Basic

/-!
# Spellings of a tracked directory

The check of tracked files knows the files of a directory by a text that their paths begin with: the directory as it is written, without leading `./` and trailing slashes. The repository lists them by their canonical paths. So the check finds the files below a directory that is written in its canonical form, up to those ends. For any other spelling it finds none at all, however many there are, and then it passes exactly if none is allowed.
-/

namespace GuardedPlan

namespace Path

/-- Slashes name nothing. -/
theorem names_slashes {slashes : List Char} (h : ∀ c ∈ slashes, c = '/') : names [String.ofList slashes] = [] := by
  induction slashes with
  | nil => rfl
  | cons c rest ih =>
    obtain ⟨rfl, hrest⟩ := List.forall_mem_cons.1 h
    have hsegments := segments_append_slash [] rest
    rw [List.nil_append] at hsegments
    rw [names_eq, hsegments, List.filter_append, ← names_eq, ← names_eq, ih hrest]
    rfl

theorem names_append_slashes (chars : List Char) {slashes : List Char} (h : ∀ c ∈ slashes, c = '/') :
    names [String.ofList (chars ++ slashes)] = names [String.ofList chars] := by
  cases slashes with
  | nil => rw [List.append_nil]
  | cons c rest =>
    obtain ⟨rfl, hrest⟩ := List.forall_mem_cons.1 h
    rw [names_eq, segments_append_slash, List.filter_append, ← names_eq, ← names_eq, names_slashes hrest, List.append_nil]

end Path

namespace TrackedFiles

open GuardedPlan.Path

variable {directory file rest : String}

/-! ### Files below a directory -/

/-- The path of a file relative to a directory, if the file is below it. -/
def relativeTo? (directory file : String) : Option String :=
  if names [directory] <+: segments file ∧ names [directory] ≠ segments file then
    some ("/".intercalate ((segments file).drop (names [directory]).length))
  else none

theorem relativeTo?_eq_some_iff :
    relativeTo? directory file = some rest ↔ segments file = names [directory] ++ segments rest := by
  rw [relativeTo?]
  constructor
  · intro h
    split at h
    · rename_i hbelow
      obtain ⟨⟨more, hmore⟩, hproper⟩ := hbelow
      have hsome : more ≠ [] := by
        rintro rfl
        exact hproper (by rw [← hmore, List.append_nil])
      have hslash : ∀ segment ∈ more, '/' ∉ segment.toList := by
        intro segment hsegment
        refine @slash_not_mem_of_mem_segments file segment ?_
        rw [← hmore]
        exact List.mem_append_right _ hsegment
      rw [← hmore, List.drop_left, Option.some.injEq] at h
      rw [← h, segments_intercalate hslash hsome, hmore]
    · cases h
  · intro h
    have hproper : names [directory] ≠ segments file := by
      rw [h]
      intro hsame
      exact segments_ne_nil rest (List.self_eq_append_right.1 hsame)
    rw [if_pos ⟨⟨_, h.symm⟩, hproper⟩, h, List.drop_left, intercalate_segments]

/-- A path as the repository lists it: every segment names something, and none climbs. -/
def IsClean (file : String) : Prop :=
  ∀ segment ∈ segments file, isName segment = true ∧ segment ≠ ".."

instance (file : String) : Decidable (IsClean file) :=
  inferInstanceAs (Decidable (∀ segment ∈ segments file, _))

/-- All tracked files have clean paths, and for a directory those at or below it are listed. -/
structure Lists (list : String → Except ListingFault (List String)) (tracked : List String) (directory : String) :
    Prop where
  clean : ∀ file ∈ tracked, IsClean file
  listed : ∃ files, list directory = .ok files ∧ files.Perm (tracked.filter fun file => names [directory] <+: segments file)

/-! ### Spellings -/

/-- A directory without leading `./` and trailing slashes. -/
def body (directory : String) : List Char :=
  Text.dropEndWhile (· = '/') (dropDots directory.toList)

/-- Without leading `./` and trailing slashes nothing is left of a directory, or its canonical form. -/
def IsPlain (directory : String) : Prop :=
  body directory = [] ∨ String.ofList (body directory) = join [directory]

instance (directory : String) : Decidable (IsPlain directory) :=
  inferInstanceAs (Decidable (_ ∨ _))

theorem names_body (directory : String) : names [String.ofList (body directory)] = names [directory] := by
  obtain ⟨slashes, hslashes, hsplit⟩ : ∃ slashes, (∀ c ∈ slashes, c = '/') ∧
      dropDots directory.toList = body directory ++ slashes := by
    refine ⟨((dropDots directory.toList).reverse.takeWhile (· = '/')).reverse, fun c hc => ?_, ?_⟩
    · simpa using List.all_eq_true.1 List.all_takeWhile c (List.mem_reverse.1 hc)
    · rw [body, Text.dropEndWhile, ← List.reverse_append, List.takeWhile_append_dropWhile, List.reverse_reverse]
  rw [← names_append_slashes _ hslashes, ← hsplit]
  exact names_normalize directory

/-- Where something but a lone dot is left of a directory, that is its canonical form exactly if all its segments are names. -/
theorem isPlain_iff (h : body directory ≠ []) (hdot : body directory ≠ ['.']) :
    IsPlain directory ↔ segments (String.ofList (body directory)) = names [directory] := by
  constructor
  · rintro (hnil | hjoin)
    · exact absurd hnil h
    · by_cases hnames : names [directory] = []
      · rw [join, hnames] at hjoin
        exact absurd (String.ofList_injective hjoin) hdot
      · rw [hjoin, segments_join hnames]
  · intro hsegments
    have hnames : names [directory] ≠ [] := by
      rw [← hsegments]
      exact segments_ne_nil _
    right
    rw [join_of_names_ne_nil hnames, ← hsegments, intercalate_segments]

/-- What the paths of files have to begin with is nothing, where the directory names nothing, or the directory and a slash. -/
theorem directoryLead_cases (directory : String) :
    directoryLead directory = [] ∧ IsPlain directory ∧ names [directory] = [] ∨
      directoryLead directory = body directory ++ ['/'] ∧
        (IsPlain directory ↔ segments (String.ofList (body directory)) = names [directory]) := by
  have hnames := names_body directory
  rw [directoryLead, ← body]
  split
  · rename_i hbody
    rw [hbody] at hnames
    exact .inl ⟨rfl, .inl hbody, hnames.symm⟩
  · rename_i hbody
    rw [hbody] at hnames
    have hnil : names [directory] = [] := hnames.symm
    refine .inl ⟨rfl, .inr ?_, hnil⟩
    rw [hbody, join, hnil]
  · rename_i hbody hdot
    exact .inr ⟨rfl, isPlain_iff hbody hdot⟩

/-- A file without the text that it has to begin with. -/
def stripLead (lead : List Char) (file : String) : Option String :=
  if lead.isPrefixOf file.toList then some (String.ofList (file.toList.drop lead.length)) else none

theorem stripLead_eq_some_iff (lead : List Char) :
    stripLead lead file = some rest ↔ file.toList = lead ++ rest.toList := by
  rw [stripLead]
  constructor
  · intro h
    split at h
    · rename_i hprefix
      obtain ⟨more, hmore⟩ := List.isPrefixOf_iff_prefix.1 hprefix
      rw [← hmore, List.drop_left, Option.some.injEq] at h
      rw [← h, String.toList_ofList, hmore]
    · cases h
  · intro h
    rw [if_pos (List.isPrefixOf_iff_prefix.2 ⟨_, h.symm⟩), h, List.drop_left, String.ofList_toList]

/-- For the canonical path of a file the text to begin with is right or never there, depending on the spelling of the directory. -/
theorem stripLead_directoryLead (hfile : IsClean file) (directory : String) :
    stripLead (directoryLead directory) file = if IsPlain directory then relativeTo? directory file else none := by
  refine Option.ext fun rest => ?_
  rw [stripLead_eq_some_iff]
  rcases directoryLead_cases directory with ⟨hlead, hplain, hnames⟩ | ⟨hlead, hplain⟩
  · rw [hlead, if_pos hplain, relativeTo?_eq_some_iff, hnames, List.nil_append, List.nil_append, String.toList_inj]
    exact ⟨congrArg segments, segments_inj⟩
  · have hbegins : file.toList = directoryLead directory ++ rest.toList ↔
        segments file = segments (String.ofList (body directory)) ++ segments rest := by
      rw [segments_eq_append_iff, hlead, String.toList_ofList, List.append_assoc]
      rfl
    rw [hbegins]
    by_cases hspelled : IsPlain directory
    · rw [if_pos hspelled, relativeTo?_eq_some_iff, hplain.1 hspelled]
    · rw [if_neg hspelled]
      refine iff_of_false (fun hsegments => hspelled (hplain.2 ?_)) (by simp)
      -- the segments of the file are names, so those of what is left of the directory are
      have hall : ∀ segment ∈ segments (String.ofList (body directory)), isName segment = true := by
        intro segment hsegment
        refine (hfile segment ?_).1
        rw [hsegments]
        exact List.mem_append_left _ hsegment
      rw [← names_body, names_eq, List.filter_eq_self.2 hall]

/-! ### What is found -/

def ascending (texts : List String) : List String :=
  texts.mergeSort fun a b => decide (a ≤ b)

theorem ascending_congr {first second : List String} (h : first.Perm second) : ascending first = ascending second := by
  have hordered : ∀ texts, (ascending texts).Pairwise fun a b => decide (a ≤ b) = true :=
    List.pairwise_mergeSort (fun a b c hab hbc => by simpa using String.le_trans (by simpa using hab) (by simpa using hbc))
      (fun a b => by simpa using String.le_total a b)
  refine List.Perm.eq_of_pairwise (fun a b _ _ hab hba => ?_) (hordered first) (hordered second) ?_
  · exact String.le_antisymm (by simpa using hab) (by simpa using hba)
  · exact (List.mergeSort_perm first _).trans (h.trans (List.mergeSort_perm second _).symm)

theorem ascending_eq_nil_iff {texts : List String} : ascending texts = [] ↔ texts = [] :=
  ⟨fun h => List.nil_perm.1 (h ▸ List.mergeSort_perm texts _), fun h => h ▸ List.mergeSort_nil⟩

/-- The tracked files below a directory that globs match, relative to it and in ascending order. -/
def filesBelow (tracked : List String) (directory : String) (globs : List Glob) : List String :=
  ascending ((tracked.filterMap (relativeTo? directory)).filter (Glob.anyAccepts globs))

variable {list : String → Except ListingFault (List String)} {tracked : List String} {globs : List Glob}

theorem matching_eq (files : List String) (directory : String) (globs : List Glob) :
    matching files directory globs =
      ascending ((files.filterMap (stripLead (directoryLead directory))).filter (Glob.anyAccepts globs)) := rfl

/-- Of a listing, the files below the directory are found, or none, depending on the spelling of the directory. -/
theorem Lists.matching_eq (h : Lists list tracked directory) (globs : List Glob) :
    ∃ files, list directory = .ok files ∧
      matching files directory globs = if IsPlain directory then filesBelow tracked directory globs else [] := by
  obtain ⟨hclean, files, hlist, hperm⟩ := h
  have hstrip : ∀ file ∈ files, stripLead (directoryLead directory) file =
      if IsPlain directory then relativeTo? directory file else none := by
    intro file hfile
    have htracked := List.mem_filter.1 (hperm.mem_iff.1 hfile)
    exact stripLead_directoryLead (hclean file htracked.1) directory
  refine ⟨files, hlist, ?_⟩
  rw [TrackedFiles.matching_eq, List.filterMap_congr hstrip]
  by_cases hplain : IsPlain directory
  · have hbelow : (tracked.filter fun file => names [directory] <+: segments file).filterMap (relativeTo? directory) =
        tracked.filterMap (relativeTo? directory) := by
      rw [List.filterMap_filter]
      congr 1
      funext file
      split
      · rfl
      · rename_i helsewhere
        rw [relativeTo?, if_neg fun hboth => helsewhere (by simpa using hboth.1)]
    simp only [if_pos hplain]
    rw [filesBelow, ← hbelow]
    exact ascending_congr ((hperm.filterMap _).filter _)
  · simp only [if_neg hplain]
    simp [ascending]

/-- Inside of a work tree, with a glob that can be read, the check passes exactly if the files that it finds are the allowed ones. -/
theorem verdict_eq_pass_iff {workDirectory pattern : String} {allow files : List String}
    (hglobs : Glob.parseAll [pattern] = .ok globs) (hlist : list directory = .ok files) :
    verdict (some list) workDirectory directory pattern allow = .ok .pass ↔
      matching files directory globs = ascending allow := by
  rw [verdict, hglobs]
  dsimp only
  rw [hlist]
  simp [Verdict.require, ascending]

/-- In every directory a file can be tracked, and listed. -/
theorem exists_lists (hcontained : isContained directory = true) :
    ∃ file, Lists (fun _ => .ok [file]) [file] directory ∧ relativeTo? directory file = some "x" := by
  have hslash : ∀ name ∈ names [directory] ++ ["x"], '/' ∉ name.toList := by
    intro name hname
    rcases List.mem_append.1 hname with hname | hname
    · exact slash_not_mem_of_mem_names hname
    · rw [List.mem_singleton.1 hname]
      decide
  have hsegments : segments ("/".intercalate (names [directory] ++ ["x"])) = names [directory] ++ ["x"] :=
    segments_intercalate hslash (by simp)
  refine ⟨"/".intercalate (names [directory] ++ ["x"]), ⟨List.forall_mem_singleton.2 fun segment hsegment => ?_, ?_⟩, ?_⟩
  · rw [hsegments] at hsegment
    rcases List.mem_append.1 hsegment with hname | hname
    · refine ⟨isName_of_mem_names hname, ?_⟩
      rintro rfl
      rw [names_eq] at hname
      exact climb_not_mem_segments hcontained (List.mem_filter.1 hname).1
    · rw [List.mem_singleton.1 hname]
      decide
  · refine ⟨_, rfl, ?_⟩
    rw [List.filter_eq_self.2]
    exact List.forall_mem_singleton.2 (decide_eq_true (by rw [hsegments]; exact List.prefix_append _ _))
  · rw [relativeTo?_eq_some_iff, hsegments]
    rfl

/-- The check compares the tracked files below a directory with the allowed ones, whatever is tracked and allowed, exactly if the directory is written in its canonical form up to leading `./` and trailing slashes. For any other spelling it passes exactly if nothing is allowed. -/
theorem verdict_pass_iff {directory : String} (hcontained : isContained directory = true) :
    ((∀ list tracked workDirectory pattern globs allow,
        Lists list tracked directory → Glob.parseAll [pattern] = .ok globs →
          (verdict (some list) workDirectory directory pattern allow = .ok .pass ↔
            filesBelow tracked directory globs = ascending allow)) ↔ IsPlain directory) ∧
    (¬ IsPlain directory → ∀ list tracked workDirectory pattern globs allow,
      Lists list tracked directory → Glob.parseAll [pattern] = .ok globs →
        (verdict (some list) workDirectory directory pattern allow = .ok .pass ↔ allow = [])) := by
  have hmissed : ¬ IsPlain directory → ∀ list tracked workDirectory pattern globs allow,
      Lists list tracked directory → Glob.parseAll [pattern] = .ok globs →
        (verdict (some list) workDirectory directory pattern allow = .ok .pass ↔ allow = []) := by
    intro hplain list tracked workDirectory pattern globs allow hlists hglobs
    obtain ⟨files, hlist, hmatching⟩ := hlists.matching_eq globs
    rw [verdict_eq_pass_iff hglobs hlist, hmatching, if_neg hplain, eq_comm, ascending_eq_nil_iff]
  refine ⟨⟨fun hall => ?_, fun hplain => ?_⟩, hmissed⟩
  · by_contra hplain
    obtain ⟨file, hlists, hrelative⟩ := exists_lists hcontained
    have hpasses := (hmissed hplain _ _ "" "**" _ [] hlists Glob.parseAll_doubleStar).2 rfl
    have hfound := (hall _ _ "" "**" _ [] hlists Glob.parseAll_doubleStar).1 hpasses
    have hnothing := ascending_eq_nil_iff.1 (hfound.trans (ascending_eq_nil_iff.2 rfl))
    simp [hrelative, Glob.anyAccepts, Glob.accepts_everything] at hnothing
  · intro list tracked workDirectory pattern globs allow hlists hglobs
    obtain ⟨files, hlist, hmatching⟩ := hlists.matching_eq globs
    rw [verdict_eq_pass_iff hglobs hlist, hmatching, if_pos hplain]

namespace Sample

theorem clean_samples :
    (∀ file ∈ ["a/x", "b"], IsClean file) ∧ segments "a/x" = ["a", "x"] ∧ segments "b" = ["b"] ∧ segments "x" = ["x"] := by
  decide +kernel

/-- A listing with one file, which is not the only one that is tracked. -/
theorem lists_of_names (h : names [directory] = ["a"]) : Lists (fun _ => .ok ["a/x"]) ["a/x", "b"] directory := by
  obtain ⟨hclean, hinside, hbeside, -⟩ := clean_samples
  refine ⟨hclean, _, rfl, ?_⟩
  simp [h, hinside, hbeside]

theorem filesBelow_of_names (h : names [directory] = ["a"]) :
    filesBelow ["a/x", "b"] directory [Glob.everything] = ["x"] := by
  obtain ⟨-, hsegments, hothers, hrest⟩ := clean_samples
  have hinside : relativeTo? directory "a/x" = some "x" := by
    rw [relativeTo?_eq_some_iff, h, hsegments, hrest]
    rfl
  have hbeside : relativeTo? directory "b" = none := by
    simp [relativeTo?, h, hothers]
  simp [filesBelow, ascending, hinside, hbeside, Glob.anyAccepts, Glob.accepts_everything]

end Sample

/-- One file is found below `./a//`, so the check asks for it to be allowed; below `a/.`, where it is as well, the check passes with nothing allowed. -/
theorem verdict_pass_iff_samples :
    isContained "./a//" = true ∧ isContained "a/." = true ∧
    Lists (fun _ => .ok ["a/x"]) ["a/x", "b"] "./a//" ∧ Lists (fun _ => .ok ["a/x"]) ["a/x", "b"] "a/." ∧
    filesBelow ["a/x", "b"] "./a//" [Glob.everything] = ["x"] ∧ filesBelow ["a/x", "b"] "a/." [Glob.everything] = ["x"] ∧
    verdict (some fun _ => .ok ["a/x"]) "" "./a//" "**" ["x"] = .ok .pass ∧
    verdict (some fun _ => .ok ["a/x"]) "" "./a//" "**" [] ≠ .ok .pass ∧
    verdict (some fun _ => .ok ["a/x"]) "" "a/." "**" [] = .ok .pass := by
  obtain ⟨hcontained, hdotted, hnames, hdottedNames, hplain, hskewed⟩ :
      isContained "./a//" = true ∧ isContained "a/." = true ∧ names ["./a//"] = ["a"] ∧ names ["a/."] = ["a"] ∧
        IsPlain "./a//" ∧ ¬ IsPlain "a/." := by decide +kernel
  have hlists := Sample.lists_of_names hnames
  have hfound := Sample.filesBelow_of_names hnames
  have hverdict := fun allow => (verdict_pass_iff hcontained).1.2 hplain _ _ "" "**" _ allow hlists Glob.parseAll_doubleStar
  have hmissed := (verdict_pass_iff hdotted).2 hskewed _ _ "" "**" _ [] (Sample.lists_of_names hdottedNames)
    Glob.parseAll_doubleStar
  refine ⟨hcontained, hdotted, hlists, Sample.lists_of_names hdottedNames, hfound,
    Sample.filesBelow_of_names hdottedNames, (hverdict ["x"]).2 ?_, fun hpass => ?_, hmissed.2 rfl⟩
  · rw [hfound]
    simp [ascending]
  · have hnothing := (hverdict []).1 hpass
    rw [hfound] at hnothing
    simp [ascending] at hnothing

end TrackedFiles

end GuardedPlan
