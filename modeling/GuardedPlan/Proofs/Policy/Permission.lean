import GuardedPlan.Policy.Command
import GuardedPlan.Policy.Write
import GuardedPlan.Proofs.Base.Lists

/-!
# What policies permit

Permission as rules on the globs and substrings that a manifest writes down, beside the policies that judge by them. A policy has nothing against a path, or against a command, exactly when the rules permit it, so whatever is proved of a silent policy can be read as a statement about the manifest. Scopes only ever take permission away.
-/

namespace GuardedPlan

/-! ### Globs in lists -/

namespace Glob

/-- A glob, read by itself, matches a path. -/
def Covers (source path : String) : Prop :=
  ∃ tokens, read source = .ok tokens ∧ (ofTokens source tokens).accepts path = true

theorem any_zipWith_iff_covers {sources : List String} {tokens : List (List Token)} (path : String)
    (h : sources.mapM read = .ok tokens) :
    ((List.zipWith ofTokens sources tokens).any fun glob => glob.accepts path) = true ↔
      ∃ source ∈ sources, Covers source path := by
  induction sources generalizing tokens with
  | nil =>
    cases h
    simp
  | cons source rest ih =>
    obtain ⟨first, others, hfirst, hothers, rfl⟩ := mapM_cons_eq_ok_iff.1 h
    have hcovers : Covers source path ↔ (ofTokens source first).accepts path = true := by
      simp [Covers, hfirst]
    rw [List.zipWith_cons_cons, List.any_cons, Bool.or_eq_true, ih hothers, ← hcovers]
    simp only [List.mem_cons, exists_eq_or_imp]

theorem parseAll_eq_ok_iff {sources : List String} {globs : List Glob} :
    parseAll sources = .ok globs ↔
      ∃ tokens, sources.mapM read = .ok tokens ∧ excess? tokens = none ∧ globs = List.zipWith ofTokens sources tokens := by
  rw [parseAll, bind, Monad.toBind, Except.instMonad]
  dsimp only
  rw [Except.bind_eq_ok_iff]
  refine exists_congr fun tokens => and_congr_right fun _ => ?_
  cases excess? tokens <;> simp [eq_comm]

/-- Reading globs together only adds a limit on how deeply they nest. -/
theorem anyAccepts_iff_covers {sources : List String} {globs : List Glob} (path : String)
    (h : parseAll sources = .ok globs) : anyAccepts globs path = true ↔ ∃ source ∈ sources, Covers source path := by
  obtain ⟨tokens, htokens, _, rfl⟩ := parseAll_eq_ok_iff.1 h
  exact any_zipWith_iff_covers path htokens

end Glob

/-! ### Writes -/

/-- A path may be written under the globs of a manifest and under the scopes of a spec, if it has any. -/
structure WritePermitted (effects : EffectsPolicy) (scopes : Option (List String)) (path : String) : Prop where
  contained : Path.isContained path = true
  allowed : ∃ glob ∈ effects.allowWrite, Glob.Covers glob (Path.normalize path)
  undenied : ∀ glob ∈ effects.denyWrite, ¬ Glob.Covers glob (Path.normalize path)
  inScope : ∀ globs, scopes = some globs → ∃ glob ∈ globs, Glob.Covers glob (Path.normalize path)

namespace WritePolicy

theorem violations_eq_nil_iff (policy : WritePolicy) (path : String) :
    policy.violations path = [] ↔ Path.isContained path = true ∧
      Glob.anyAccepts policy.allow (Path.normalize path) = true ∧
      Glob.anyAccepts policy.deny (Path.normalize path) = false ∧
      ∀ scopes, policy.scopes = some scopes → Glob.anyAccepts scopes (Path.normalize path) = true := by
  cases hcontained : Path.isContained path with
  | false => simp [violations, hcontained]
  | true =>
    cases hscopes : policy.scopes with
    | none => simp [violations, hcontained, hscopes, Glob.anyAccepts]
    | some scopes => simp [violations, hcontained, hscopes, Glob.anyAccepts]

/-- A policy without its scopes finds nothing that it does not find with them. -/
theorem violations_unscoped {policy : WritePolicy} {scopes : Option (List Glob)} {path : String}
    (hpolicy : policy.scopes = none) (h : ({ policy with scopes := scopes } : WritePolicy).violations path = []) :
    policy.violations path = [] := by
  rw [violations_eq_nil_iff] at h ⊢
  exact ⟨h.1, h.2.1, h.2.2.1, fun globs hglobs => by simp [hpolicy] at hglobs⟩

theorem ofEffects_eq_ok_iff {effects : EffectsPolicy} {policy : WritePolicy} :
    ofEffects effects = .ok policy ↔
      Glob.parseAll effects.allowWrite = .ok policy.allow ∧ Glob.parseAll effects.denyWrite = .ok policy.deny ∧
        policy.scopes = none := by
  obtain ⟨allow, deny, scopes⟩ := policy
  cases hallow : Glob.parseAll effects.allowWrite with
  | error bad => simp [ofEffects, hallow, bind, Except.bind]
  | ok allowing =>
    cases hdeny : Glob.parseAll effects.denyWrite with
    | error bad => simp [ofEffects, hallow, hdeny, bind, Except.bind]
    | ok denying => simp [ofEffects, hallow, hdeny, bind, Except.bind, pure, Except.pure, eq_comm]

/-- A policy read from the globs of a manifest and from scopes judges as those globs say. -/
theorem violations_eq_nil_iff_permitted {effects : EffectsPolicy} {scopes : Option (List String)} {policy : WritePolicy}
    (hallow : Glob.parseAll effects.allowWrite = .ok policy.allow)
    (hdeny : Glob.parseAll effects.denyWrite = .ok policy.deny)
    (hscopes : (scopes = none ∧ policy.scopes = none) ∨
      ∃ sources globs, scopes = some sources ∧ Glob.parseAll sources = .ok globs ∧ policy.scopes = some globs)
    (path : String) : policy.violations path = [] ↔ WritePermitted effects scopes path := by
  have hundenied : Glob.anyAccepts policy.deny (Path.normalize path) = false ↔
      ∀ glob ∈ effects.denyWrite, ¬ Glob.Covers glob (Path.normalize path) := by
    rw [← Bool.not_eq_true, Glob.anyAccepts_iff_covers _ hdeny]
    simp
  have hscoped : (∀ globs, policy.scopes = some globs → Glob.anyAccepts globs (Path.normalize path) = true) ↔
      ∀ sources, scopes = some sources → ∃ glob ∈ sources, Glob.Covers glob (Path.normalize path) := by
    rcases hscopes with ⟨rfl, hnone⟩ | ⟨sources, globs, rfl, hglobs, hsome⟩
    · simp [hnone]
    · simp [hsome, Glob.anyAccepts_iff_covers _ hglobs]
  rw [violations_eq_nil_iff, Glob.anyAccepts_iff_covers _ hallow, hundenied, hscoped]
  exact ⟨fun ⟨hcontained, hallowed, hundenied, hscoped⟩ => ⟨hcontained, hallowed, hundenied, hscoped⟩,
    fun ⟨hcontained, hallowed, hundenied, hscoped⟩ => ⟨hcontained, hallowed, hundenied, hscoped⟩⟩

end WritePolicy

/-! ### Commands -/

namespace Text

theorem contains_iff_isInfix (needle text : List Char) : contains needle text = true ↔ needle <:+: text := by
  induction text with
  | nil => simp [contains]
  | cons c rest ih => rw [contains, Bool.or_eq_true, ih, List.isPrefixOf_iff_prefix, List.infix_cons_iff]

/-- A text begins with a token: some whitespace, then the token up to whitespace or the end. -/
def OpensWith (token text : List Char) : Prop :=
  token ≠ [] ∧ (∀ c ∈ token, isBlank c = false) ∧ ∃ before after, text = before ++ token ++ after ∧
    (∀ c ∈ before, isBlank c = true) ∧ ∀ c ∈ after.head?, isBlank c = true

theorem opensWith_iff (token text : List Char) :
    OpensWith token text ↔ token ≠ [] ∧ (trimStart text).takeWhile (fun c => !isBlank c) = token := by
  constructor
  · rintro ⟨hnonempty, htoken, before, after, rfl, hbefore, hafter⟩
    refine ⟨hnonempty, ?_⟩
    have htrim : trimStart (before ++ token ++ after) = token ++ after := by
      rw [trimStart, List.append_assoc, List.dropWhile_append_of_pos hbefore]
      obtain ⟨first, rest, rfl⟩ := List.exists_cons_of_ne_nil hnonempty
      rw [List.cons_append, List.dropWhile_cons_of_neg (by simp [htoken first])]
    have hend : after.takeWhile (fun c => !isBlank c) = [] := by
      cases after with
      | nil => rfl
      | cons c rest => rw [List.takeWhile_cons_of_neg (by simp [hafter c rfl])]
    rw [htrim, List.takeWhile_append_of_pos (by simpa using htoken), hend, List.append_nil]
  · rintro ⟨hnonempty, rfl⟩
    refine ⟨hnonempty, fun c hc => ?_, text.takeWhile isBlank,
      (trimStart text).dropWhile (fun c => !isBlank c), ?_, fun c hc => ?_, fun c hc => ?_⟩
    · simpa using List.all_eq_true.1 (List.all_takeWhile (p := fun c => !isBlank c)) c hc
    · rw [List.append_assoc, List.takeWhile_append_dropWhile, trimStart, List.takeWhile_append_dropWhile]
    · exact List.all_eq_true.1 (List.all_takeWhile (p := isBlank)) c hc
    · have hhead := List.head?_dropWhile_not (fun c => !isBlank c) (trimStart text)
      rw [Option.mem_def.1 hc] at hhead
      simpa using hhead

end Text

/-- A command may run under a manifest: its leading token is allowed and nothing denied stands in it. -/
structure CommandPermitted (policy : CommandsPolicy) (command : String) : Prop where
  leading : ∃ token ∈ policy.allowPrefixes, Text.OpensWith token.toList command.toList
  clean : ∀ needle ∈ policy.denySubstrings, ¬ needle.toList <:+: command.toList

theorem CommandsPolicy.violations_eq_nil_iff_permitted {policy : CommandsPolicy} (hprefixes : "" ∉ policy.allowPrefixes)
    (command : String) : policy.violations command = [] ↔ CommandPermitted policy command := by
  have hleading : policy.allowPrefixes.contains (Text.leadingToken command) = true ↔
      ∃ token ∈ policy.allowPrefixes, Text.OpensWith token.toList command.toList := by
    rw [List.contains_iff_mem]
    constructor
    · intro hmem
      refine ⟨_, hmem, (Text.opensWith_iff _ _).2 ⟨?_, by simp [Text.leadingToken]⟩⟩
      intro hempty
      rw [String.toList_eq_nil_iff] at hempty
      exact hprefixes (hempty ▸ hmem)
    · rintro ⟨token, hmem, hopens⟩
      rw [Text.leadingToken, ((Text.opensWith_iff _ _).1 hopens).2, String.ofList_toList]
      exact hmem
  have hviolations : policy.violations command = [] ↔
      policy.allowPrefixes.contains (Text.leadingToken command) = true ∧
        ∀ needle ∈ policy.denySubstrings, Text.contains needle.toList command.toList = false := by
    simp [violations]
  rw [hviolations, hleading]
  simp only [← Bool.not_eq_true, Text.contains_iff_isInfix]
  exact ⟨fun ⟨hleading, hclean⟩ => ⟨hleading, hclean⟩, fun ⟨hleading, hclean⟩ => ⟨hleading, hclean⟩⟩

end GuardedPlan
