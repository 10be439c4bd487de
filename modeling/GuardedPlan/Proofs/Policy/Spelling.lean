import GuardedPlan.Policy.Write
import GuardedPlan.Proofs.Glob.Literal
import GuardedPlan.Proofs.Path.Segments
import GuardedPlan.Proofs.Policy.Permission

/-!
# Spellings of a path

A path with dots or empty segments in it reaches the same file as its canonical form, and policies only take the leading dots away before they judge it. That is enough for the paths with nothing to skip past those dots, and for no others: for every other spelling there is a policy that permits it although it denies the file by its canonical path.
-/

namespace GuardedPlan.WritePolicy

/-- A verdict depends on what globs see of a path, as long as the path is contained. -/
theorem violations_congr {first second : String} (hfirst : Path.isContained first = true)
    (hsecond : Path.isContained second = true) (h : Path.normalize first = Path.normalize second)
    (policy : WritePolicy) : policy.violations first = policy.violations second := by
  rw [violations, violations, if_pos hfirst, if_pos hsecond, h]

/-- A policy that permits everything but one path can be written down. -/
theorem exists_policy_denying {denied : String} (hdenied : denied ≠ "") :
    ∃ policy, ofEffects ⟨["**"], [Glob.escaped denied]⟩ = .ok policy ∧
      ∀ path, Path.isContained path = true → policy.violations path =
        if Path.normalize path = denied then [.denied (Glob.escaped denied)] else [] := by
  refine ⟨⟨[Glob.everything], [Glob.ofTokens (Glob.escaped denied) (denied.toList.map .literal)], none⟩,
    ofEffects_eq_ok_iff.2 ⟨Glob.parseAll_doubleStar, Glob.parseAll_escaped hdenied, rfl⟩, fun path hcontained => ?_⟩
  have hallow : Glob.anyAccepts [Glob.everything] (Path.normalize path) = true := by
    simp [Glob.anyAccepts, Glob.accepts_everything]
  rw [violations, if_pos hcontained]
  dsimp only
  rw [if_pos hallow, List.nil_append, List.append_nil]
  by_cases hpath : Path.normalize path = denied
  · have hmatch := (Glob.accepts_escaped_iff hdenied _).2 hpath
    simp only [List.filter_cons, hmatch, if_pos hpath, List.filter_nil, if_true]
    rfl
  · have hmiss := mt (Glob.accepts_escaped_iff hdenied (Path.normalize path)).1 hpath
    rw [Bool.not_eq_true] at hmiss
    simp only [List.filter_cons, hmiss, if_neg hpath, List.filter_nil]
    rfl

theorem names_ne_nil_of_last {path last : String} (hlast : (Path.segments path).getLast? = some last)
    (hname : Path.isName last = true) : Path.names [path] ≠ [] := by
  rw [Path.names_eq]
  exact List.ne_nil_of_mem (List.mem_filter.2 ⟨List.mem_of_getLast? hlast, hname⟩)

/-- The spellings that no policy tells from the canonical path are those without a dot or an empty segment past the leading dots. Any other spelling gets past the denial of the canonical path under some policy. -/
theorem violations_canonical {path last : String} (hcontained : Path.isContained path = true)
    (hlast : (Path.segments path).getLast? = some last) (hname : Path.isName last = true)
    (hcanonical : Path.isContained (Path.join [path]) = true) :
    ((∀ segment ∈ Path.segments (Path.normalize path), Path.isName segment = true) →
      ∀ policy : WritePolicy, policy.violations path = policy.violations (Path.join [path])) ∧
    ((∃ segment ∈ Path.segments (Path.normalize path), Path.isName segment = false) →
      ∃ glob policy, ofEffects ⟨["**"], [glob]⟩ = .ok policy ∧ policy.violations path = [] ∧
        policy.violations (Path.join [path]) = [.denied glob]) := by
  have hnames : Path.names [path] ≠ [] := names_ne_nil_of_last hlast hname
  have hjoin : Path.normalize (Path.join [path]) = Path.join [path] := Path.normalize_join hnames
  constructor
  · intro hall policy
    refine violations_congr hcontained hcanonical ?_ policy
    rw [hjoin]
    exact (Path.normalize_eq_join_iff hnames).2 hall
  · rintro ⟨segment, hsegment, hskipped⟩
    have hdiffers : Path.normalize path ≠ Path.join [path] := by
      intro hsame
      rw [(Path.normalize_eq_join_iff hnames).1 hsame segment hsegment] at hskipped
      cases hskipped
    have hdenied : Path.join [path] ≠ "" := by
      intro hempty
      rw [hempty] at hcanonical
      cases hcanonical
    obtain ⟨policy, hpolicy, hviolations⟩ := exists_policy_denying hdenied
    refine ⟨Glob.escaped (Path.join [path]), policy, hpolicy, ?_, ?_⟩
    · rw [hviolations path hcontained, if_neg hdiffers]
    · rw [hviolations _ hcanonical, if_pos hjoin]

theorem violations_canonical_dotted :
    ∃ glob policy, ofEffects ⟨["**"], [glob]⟩ = .ok policy ∧ policy.violations "app/./.env" = [] ∧
      policy.violations "app/.env" = [.denied glob] := by
  have hjoin : Path.join ["app/./.env"] = "app/.env" := by decide +kernel
  have hlast : (Path.segments "app/./.env").getLast? = some ".env" := by decide +kernel
  have hbypass := (violations_canonical (by decide +kernel) hlast (by decide) (by decide +kernel)).2
    ⟨".", by decide +kernel, by decide⟩
  rwa [hjoin] at hbypass

end GuardedPlan.WritePolicy
