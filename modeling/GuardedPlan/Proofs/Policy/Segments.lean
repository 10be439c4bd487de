import GuardedPlan.Policy.Write
import GuardedPlan.Proofs.Glob.Segments
import GuardedPlan.Proofs.Path.Contained

/-!
# Policies of plain globs

Where the globs that allow are plain, a contained path is outside unless one of them has as many segments as the path and each matches the segment in its place. So a star never reaches into a directory below, however it stands among other characters.
-/

namespace GuardedPlan

namespace Path

theorem climb_mem_segments_of_not_hasName {path : String} (h : Glob.hasName path = false) : ".." ∈ segments path := by
  have hlast : path.toList.reverse.takeWhile (· ≠ '/') = ['.', '.'] := by
    simpa [Glob.hasName] using h
  have hchars : path.toList = (path.toList.reverse.dropWhile (· ≠ '/')).reverse ++ ['.', '.'] := by
    have hsplit := congrArg List.reverse (List.takeWhile_append_dropWhile (p := (· ≠ '/')) (l := path.toList.reverse))
    rw [hlast, List.reverse_append, List.reverse_reverse] at hsplit
    exact hsplit.symm
  have hstop := List.head?_dropWhile_not (· ≠ '/') path.toList.reverse
  have hdots : segments (String.ofList ['.', '.']) = [".."] := rfl
  rw [← String.ofList_toList (s := path), hchars]
  cases hfront : path.toList.reverse.dropWhile (· ≠ '/') with
  | nil =>
    rw [List.reverse_nil, List.nil_append, hdots]
    exact List.mem_singleton_self _
  | cons c rest =>
    rw [hfront] at hstop
    have hslash : c = '/' := by simpa using hstop
    rw [hslash, List.reverse_cons, List.append_assoc, List.singleton_append, segments_append_slash, hdots]
    exact List.mem_append_right _ (List.mem_singleton_self _)

/-- What policies see of a contained path does not end by climbing. -/
theorem hasName_normalize {path : String} (h : isContained path = true) : Glob.hasName (normalize path) = true := by
  rw [← Bool.not_eq_false]
  intro hclimbs
  have hmem : ".." ∈ names [normalize path] := by
    rw [names_eq]
    exact List.mem_filter.2 ⟨climb_mem_segments_of_not_hasName hclimbs, by decide⟩
  rw [names_normalize, names_eq] at hmem
  exact climb_not_mem_segments h (List.mem_of_mem_filter hmem)

end Path

namespace WritePolicy

theorem outside_mem_violations_iff (policy : WritePolicy) {path : String} (h : Path.isContained path = true) :
    .outside ∈ policy.violations path ↔ ¬ Glob.anyAccepts policy.allow (Path.normalize path) = true := by
  cases hscopes : policy.scopes with
  | none => simp [violations, h, hscopes]
  | some scopes => simp [violations, h, hscopes]

/-- Plain globs are always read, and then a contained path, in whatever scopes it has to be, is outside of what they allow unless its segments match those of one of them, the same number of segments and each in its place. -/
theorem outside_iff_of_plain {effects : EffectsPolicy} (hplain : ∀ glob ∈ effects.allowWrite, Glob.Plain glob.toList) :
    (∃ globs, Glob.parseAll effects.allowWrite = .ok globs) ∧
      ∀ {policy : WritePolicy} (scopes : Option (List Glob)) {path : String}, ofEffects effects = .ok policy →
        Path.isContained path = true →
        (.outside ∉ ({ policy with scopes := scopes } : WritePolicy).violations path ↔
          ∃ glob ∈ effects.allowWrite,
            List.Forall₂ Glob.MatchesSegment (Path.segments glob) (Path.segments (Path.normalize path))) := by
  refine ⟨Glob.exists_parseAll_plain hplain, fun {policy} scopes {path} hpolicy hcontained => ?_⟩
  rw [outside_mem_violations_iff _ hcontained, not_not, Glob.anyAccepts_iff_covers _ (ofEffects_eq_ok_iff.1 hpolicy).1]
  refine exists_congr fun glob => and_congr_right fun hglob => ?_
  exact Glob.covers_plain_iff (hplain glob hglob) (Path.hasName_normalize hcontained)

theorem outside_iff_of_plain_star : ∃ policy, ofEffects ⟨["docs/*.md"], []⟩ = .ok policy ∧
    .outside ∉ policy.violations "docs/README.md" ∧ .outside ∈ policy.violations "docs/adr/0001.md" := by
  have hplain : ∀ glob ∈ ["docs/*.md"], Glob.Plain glob.toList := by
    intro glob hglob
    rw [List.mem_singleton.1 hglob]
    have hchars : ("docs/*.md".toList.all fun c => c ∉ ['[', ']', '\x7b', '\x7d', '\\']) = true := rfl
    refine ⟨fun c hc => of_decide_eq_true (List.all_eq_true.1 hchars c hc), ?_⟩
    rw [← Text.contains_iff_isInfix]
    decide
  obtain ⟨⟨globs, hglobs⟩, hjudged⟩ := @outside_iff_of_plain ⟨["docs/*.md"], []⟩ hplain
  have hpolicy : ofEffects ⟨["docs/*.md"], []⟩ = .ok ⟨globs, [], none⟩ := ofEffects_eq_ok_iff.2 ⟨hglobs, rfl, rfl⟩
  have hglob : Path.segments "docs/*.md" = ["docs", "*.md"] := rfl
  refine ⟨_, hpolicy, (hjudged none hpolicy (by decide)).2 ⟨_, List.mem_singleton_self _, ?_⟩, ?_⟩
  · have hpath : Path.segments (Path.normalize "docs/README.md") = ["docs", "README.md"] := rfl
    have hdirectory : Glob.MatchesSegment "docs" "docs" :=
      (Glob.describes_literal_iff (by decide) (by decide) _).2 (toUTF8_toList _)
    have hextension : Glob.Describes ".md".toList (".md".toList.flatMap String.utf8EncodeChar) :=
      (Glob.describes_literal_iff (by decide) (by decide) _).2 rfl
    have hname : "README.md".toUTF8.toList =
        "README".toList.flatMap String.utf8EncodeChar ++ ".md".toList.flatMap String.utf8EncodeChar := by
      rw [toUTF8_toList]
      rfl
    rw [hglob, hpath]
    refine .cons hdirectory (.cons ?_ .nil)
    rw [Glob.MatchesSegment, hname]
    exact .cons (.anyBytes _) hextension
  · -- the path has one segment more than the glob
    have hpath : Path.segments (Path.normalize "docs/adr/0001.md") = ["docs", "adr", "0001.md"] := rfl
    refine not_not.1 (mt (hjudged none hpolicy (by decide)).1 ?_)
    rintro ⟨glob, hmem, hmatch⟩
    rw [List.mem_singleton.1 hmem, hglob, hpath] at hmatch
    cases hmatch.length_eq

end WritePolicy

end GuardedPlan
