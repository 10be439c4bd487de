import GuardedPlan.Proofs.Base.Lists
import GuardedPlan.Proofs.Text.Letters
import GuardedPlan.Proofs.Text.Substitution
import GuardedPlan.Proofs.Text.Trim
import GuardedPlan.Template

/-!
# Variables in templates

A token is a name between two pairs of braces, with white space around it or not. Behind its first two characters it has no opening brace, so no token begins inside another one, however many braces stand around it: wherever one stands in a template it is replaced if its name has a value and stays if it has none, and the texts before and behind it are rendered as if they stood alone.
-/

namespace GuardedPlan.Template

open Text (Blank)

/-! ### Tokens -/

structure IsName (name : String) : Prop where
  start : ∃ c rest, name.toList = c :: rest ∧ Text.isNameStart c = true
  chars : ∀ c ∈ name.toList, isVariableChar c = true

structure IsToken (name : String) (token : List Char) : Prop where
  isName : IsName name
  written : ∃ lead trail, Blank lead ∧ Blank trail ∧
    token = '\x7b' :: '\x7b' :: (lead ++ (name.toList ++ (trail ++ ['\x7d', '\x7d'])))

theorem isVariableChar_of_isNameStart {c : Char} (h : Text.isNameStart c = true) : isVariableChar c = true := by
  rw [isVariableChar, Text.isNameChar, h, Bool.true_or, Bool.true_or, Bool.true_or]

/-- The code points of names lie between two that no white space lies between. -/
theorem toNat_of_isVariableChar {c : Char} (h : isVariableChar c = true) : 0x2D ≤ c.toNat ∧ c.toNat ≤ 0x7A := by
  simp only [isVariableChar, Text.isNameChar, Text.isNameStart, Bool.or_eq_true, Bool.and_eq_true, decide_eq_true_iff,
    Char.le_def, UInt32.le_iff_toNat_le] at h
  rcases h with ((((⟨hlow, hhigh⟩ | ⟨hlow, hhigh⟩) | rfl) | ⟨hlow, hhigh⟩) | rfl) | rfl
  · exact ⟨Nat.le_trans (by decide) hlow, Nat.le_trans hhigh (by decide)⟩
  · exact ⟨Nat.le_trans (by decide) hlow, Nat.le_trans hhigh (by decide)⟩
  · decide
  · exact ⟨Nat.le_trans (by decide) hlow, Nat.le_trans hhigh (by decide)⟩
  · decide
  · decide

theorem isVariableChar_of_isBlank {c : Char} (h : Text.isBlank c = true) : isVariableChar c = false := by
  have hapart : ∀ range ∈ Text.blankRanges, range.2 < 0x2D ∨ 0x7A < range.1 := by decide
  obtain ⟨range, hrange, hfirst, hlast⟩ := Text.CharRanges.exists_of_has h
  refine Bool.eq_false_iff.2 fun hvariable => ?_
  obtain ⟨hlow, hhigh⟩ := toNat_of_isVariableChar hvariable
  have hrange := hapart range hrange
  omega

variable {name : String} {token : List Char}

theorem variableAt?_token (htoken : IsToken name token) (rest : List Char) :
    variableAt? (token ++ rest) = some ⟨name, token.length⟩ := by
  obtain ⟨hname, lead, trail, hlead, htrail, rfl⟩ := htoken
  obtain ⟨c, more, hlist, hstart⟩ := hname.start
  have hclose : (trail ++ ('\x7d' :: '\x7d' :: rest)).takeWhile Text.isBlank = trail ∧
      (trail ++ ('\x7d' :: '\x7d' :: rest)).dropWhile Text.isBlank = '\x7d' :: '\x7d' :: rest :=
    split_run htrail fun d hd => by cases hd; rfl
  have hinner : (name.toList ++ (trail ++ ('\x7d' :: '\x7d' :: rest))).takeWhile isVariableChar = name.toList ∧
      (name.toList ++ (trail ++ ('\x7d' :: '\x7d' :: rest))).dropWhile isVariableChar =
        trail ++ ('\x7d' :: '\x7d' :: rest) := by
    refine split_run hname.chars fun d hd => ?_
    cases trail with
    | nil =>
      cases hd
      rfl
    | cons first others =>
      cases hd
      exact isVariableChar_of_isBlank (htrail _ List.mem_cons_self)
  have houter : (lead ++ (name.toList ++ (trail ++ ('\x7d' :: '\x7d' :: rest)))).takeWhile Text.isBlank = lead ∧
      (lead ++ (name.toList ++ (trail ++ ('\x7d' :: '\x7d' :: rest)))).dropWhile Text.isBlank =
        name.toList ++ (trail ++ ('\x7d' :: '\x7d' :: rest)) := by
    refine split_run hlead fun d hd => ?_
    rw [hlist] at hd
    cases hd
    refine Bool.eq_false_iff.2 fun hblank => ?_
    have hvariable := isVariableChar_of_isBlank hblank
    rw [isVariableChar_of_isNameStart hstart] at hvariable
    cases hvariable
  have htext : '\x7b' :: '\x7b' :: (lead ++ (name.toList ++ (trail ++ ['\x7d', '\x7d']))) ++ rest =
      '\x7b' :: '\x7b' :: (lead ++ (name.toList ++ (trail ++ ('\x7d' :: '\x7d' :: rest)))) := by
    simp
  rw [htext, variableAt?]
  dsimp only
  rw [houter.1, houter.2, hlist]
  dsimp only [List.cons_append]
  rw [← List.cons_append, ← hlist, if_pos hstart, hinner.1, hinner.2, hclose.1, hclose.2, String.ofList_toList]
  have hlength := congrArg List.length hlist
  rw [List.length_cons] at hlength
  simp
  omega

theorem exists_token_of_variableAt? {text : List Char} {found : Text.Placeholder} (h : variableAt? text = some found) :
    ∃ token rest, IsToken found.name token ∧ text = token ++ rest ∧ found.width = token.length := by
  rw [variableAt?.eq_def] at h
  split at h
  next rest =>
    dsimp only at h
    have houter := List.takeWhile_append_dropWhile (p := Text.isBlank) (l := rest)
    have hlead : Blank (rest.takeWhile Text.isBlank) := fun c hc => List.all_eq_true.1 List.all_takeWhile c hc
    generalize rest.takeWhile Text.isBlank = lead at h houter hlead
    split at h
    · cases h
    next c others hrest =>
      rw [hrest] at h houter
      split at h
      next hstart =>
        have hinner := List.takeWhile_append_dropWhile (p := isVariableChar) (l := c :: others)
        have hname : IsName (String.ofList ((c :: others).takeWhile isVariableChar)) := by
          refine ⟨⟨c, others.takeWhile isVariableChar, ?_, hstart⟩, ?_⟩
          · rw [String.toList_ofList, List.takeWhile_cons_of_pos (isVariableChar_of_isNameStart hstart)]
          · rw [String.toList_ofList]
            exact fun d hd => List.all_eq_true.1 List.all_takeWhile d hd
        generalize (c :: others).takeWhile isVariableChar = name at h hinner hname
        generalize (c :: others).dropWhile isVariableChar = after at h hinner
        have hclose := List.takeWhile_append_dropWhile (p := Text.isBlank) (l := after)
        have htrail : Blank (after.takeWhile Text.isBlank) := fun d hd => List.all_eq_true.1 List.all_takeWhile d hd
        generalize after.takeWhile Text.isBlank = trail at h hclose htrail
        split at h
        next tail hend =>
          cases h
          rw [hend] at hclose
          refine ⟨_, tail, ⟨hname, lead, trail, hlead, htrail, rfl⟩, ?_, ?_⟩
          · rw [← houter, ← hinner, ← hclose]
            simp
          · simp
            omega
        · cases h
      · cases h
  · cases h

/-- Behind its first two characters a token has no opening brace. -/
theorem brace_not_mem_tail (hname : IsName name) {lead trail : List Char} (hlead : Blank lead) (htrail : Blank trail) :
    '{' ∉ lead ++ (name.toList ++ (trail ++ ['\x7d', '\x7d'])) := by
  simp only [List.mem_append]
  rintro (hmem | hmem | hmem | hmem)
  · exact absurd (hlead _ hmem) (by decide)
  · exact absurd (hname.chars _ hmem) (by decide)
  · exact absurd (htrail _ hmem) (by decide)
  · exact absurd hmem (by decide)

/-- The tokens that a template falls apart at are its variables. -/
theorem reads_variableAt : Text.Reads variableAt? IsToken where
  eq_some_iff := by
    intro text found
    constructor
    · exact exists_token_of_variableAt?
    · rintro ⟨token, rest, htoken, rfl, hwidth⟩
      rw [variableAt?_token htoken, ← hwidth]
  ne_nil := by
    rintro name token ⟨-, lead, trail, -, -, rfl⟩
    exact List.cons_ne_nil _ _
  apart := by
    rintro name other front inner later rest tail ⟨hname, lead, trail, hlead, htrail, htoken⟩
      ⟨-, lead', trail', -, -, rfl⟩ hfront hinner htext
    have hbrace := brace_not_mem_tail hname hlead htrail
    have hbody : lead ++ (name.toList ++ (trail ++ ['\x7d', '\x7d'])) ≠ [] := by simp
    generalize lead ++ (name.toList ++ (trail ++ ['\x7d', '\x7d'])) = body at htoken hbrace hbody
    obtain ⟨c, more, rfl⟩ := List.exists_cons_of_ne_nil hfront
    obtain ⟨d, others, rfl⟩ := List.exists_cons_of_ne_nil hinner
    obtain ⟨rfl, hsecond⟩ := List.cons.inj htext
    rw [List.cons_append, List.cons.injEq] at htoken
    cases more with
    | nil =>
      -- the token behind would have both its braces in the second one of this token and what follows it
      obtain ⟨e, inside, rfl⟩ := List.exists_cons_of_ne_nil hbody
      obtain ⟨-, rfl⟩ := List.cons.inj htoken.2
      obtain ⟨rfl, -⟩ := List.cons.inj hsecond
      exact hbrace List.mem_cons_self
    | cons e inside =>
      obtain ⟨-, rfl⟩ := List.cons.inj htoken.2
      exact hbrace (by simp)

/-- Rendering a template is one pass over its tokens. Around a token the texts before and behind are rendered as if they stood alone, whatever they end or begin with, and between them stands the value of its name, whatever is in it, or the token itself; a text without tokens stays as it is. -/
theorem render_piecewise (vars : List (String × String)) :
    (∀ before token after name : String, IsToken name token.toList →
      render vars (before ++ token ++ after) =
        render vars before ++ (vars.lookup name).getD token ++ render vars after) ∧
    ∀ text : String, (∀ name token, IsToken name token → ¬ token <:+: text.toList) → render vars text = text := by
  refine ⟨fun before token after name htoken => ?_, fun text htext => ?_⟩
  · exact reads_variableAt.ofList_substitute_around htoken before after
  · rw [render, reads_variableAt.substitute_eq_self htext, String.ofList_toList]

theorem not_infix_of_unclosed {text : List Char} (h : ¬ ['\x7d', '\x7d'] <:+: text) :
    ∀ name token, IsToken name token → ¬ token <:+: text := by
  rintro name token ⟨-, lead, trail, -, -, rfl⟩ hinside
  exact h (List.IsInfix.trans ⟨'\x7b' :: '\x7b' :: (lead ++ (name.toList ++ trail)), [], by simp⟩ hinside)

theorem render_piecewise_braces :
    IsToken "a.b" "\x7b\x7b a.b\x7d\x7d".toList ∧
      (∀ name token, IsToken name token → ¬ token <:+: "\x7b\x7bx \x7b".toList) ∧
      render [("a.b", "\x7b\x7ba.b\x7d\x7d")] ("\x7b\x7bx \x7b" ++ "\x7b\x7b a.b\x7d\x7d" ++ "\x7d \x7b\x7b") =
        "\x7b\x7bx \x7b" ++ "\x7b\x7ba.b\x7d\x7d" ++ "\x7d \x7b\x7b" := by
  have htoken : IsToken "a.b" "\x7b\x7b a.b\x7d\x7d".toList :=
    ⟨⟨⟨'a', ['.', 'b'], rfl, rfl⟩, List.all_eq_true.1 rfl⟩, [' '], [], by decide, by decide, rfl⟩
  have hbefore : ∀ name token, IsToken name token → ¬ token <:+: "\x7b\x7bx \x7b".toList :=
    not_infix_of_unclosed (by decide)
  have hafter : ∀ name token, IsToken name token → ¬ token <:+: "\x7d \x7b\x7b".toList :=
    not_infix_of_unclosed (by decide)
  obtain ⟨haround, hself⟩ := render_piecewise [("a.b", "\x7b\x7ba.b\x7d\x7d")]
  refine ⟨htoken, hbefore, ?_⟩
  rw [haround _ _ _ _ htoken, hself _ hbefore, hself _ hafter]
  rfl

end GuardedPlan.Template
