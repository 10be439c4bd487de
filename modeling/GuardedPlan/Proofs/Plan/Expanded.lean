import GuardedPlan.Expansion
import GuardedPlan.Proofs.Base.Lists
import GuardedPlan.Proofs.Text.Substitution

/-!
# Arguments in place

A placeholder is a name between braces after a dollar sign, with or without three dots behind the name. It has no other dollar sign, so no placeholder begins inside another one: wherever one stands in a text, it is replaced if its name is bound and stays if it is not, and the texts before and behind it are filled as if they stood alone.
-/

namespace GuardedPlan

namespace Macro

/-! ### Placeholders -/

def placeholder (name : String) : String :=
  "$\x7b" ++ name ++ "\x7d"

structure IsName (name : String) : Prop where
  start : ∃ c rest, name.toList = c :: rest ∧ Text.isNameStart c = true
  chars : ∀ c ∈ name.toList, Text.isNameChar c = true

/-- What may stand behind the name in a placeholder. -/
def closings : List (List Char) :=
  [['\x7d'], ['.', '.', '.', '\x7d']]

theorem mem_closings_iff {closing : List Char} :
    closing ∈ closings ↔ closing = ['\x7d'] ∨ closing = ['.', '.', '.', '\x7d'] := by
  rw [closings, List.mem_cons, List.mem_singleton]

/-- A text is a placeholder of a name. -/
structure IsToken (name : String) (token : List Char) : Prop where
  isName : IsName name
  written : ∃ closing ∈ closings, token = '$' :: '\x7b' :: (name.toList ++ closing)

theorem isToken_placeholder {name : String} (hname : IsName name) : IsToken name (placeholder name).toList :=
  ⟨hname, ['\x7d'], List.mem_cons_self, by simp [placeholder]⟩

theorem split_name {name : String} (hname : IsName name) {closing : List Char} (hclosing : closing ∈ closings)
    (rest : List Char) :
    (name.toList ++ (closing ++ rest)).takeWhile Text.isNameChar = name.toList ∧
      (name.toList ++ (closing ++ rest)).dropWhile Text.isNameChar = closing ++ rest := by
  refine split_run hname.chars fun c hc => ?_
  rcases mem_closings_iff.1 hclosing with rfl | rfl
  · cases hc
    rfl
  · cases hc
    rfl

theorem placeholderAt?_token {name : String} {token : List Char} (htoken : IsToken name token) (rest : List Char) :
    placeholderAt? (token ++ rest) = some ⟨name, token.length⟩ := by
  obtain ⟨hname, closing, hclosing, rfl⟩ := htoken
  obtain ⟨htake, hdrop⟩ := split_name hname hclosing rest
  obtain ⟨c, more, hlist, hstart⟩ := hname.start
  have htext : '$' :: '\x7b' :: (name.toList ++ closing) ++ rest = '$' :: '\x7b' :: (c :: (more ++ (closing ++ rest))) := by
    simp [hlist]
  rw [hlist, List.cons_append] at htake hdrop
  rw [htext, placeholderAt?]
  dsimp only
  rw [if_pos hstart, htake, hdrop, ← hlist, String.ofList_toList]
  rcases mem_closings_iff.1 hclosing with rfl | rfl
  · simp
  · simp

theorem exists_token_of_placeholderAt? {text : List Char} {found : Text.Placeholder}
    (h : placeholderAt? text = some found) :
    ∃ token rest, IsToken found.name token ∧ text = token ++ rest ∧ found.width = token.length := by
  rw [placeholderAt?.eq_def] at h
  split at h
  next rest =>
    split at h
    · cases h
    next c others =>
      split at h
      next hstart =>
        have hsplit := List.takeWhile_append_dropWhile (p := Text.isNameChar) (l := c :: others)
        have hchars : ∀ own ∈ (c :: others).takeWhile Text.isNameChar, Text.isNameChar own = true :=
          fun own hown => List.all_eq_true.1 List.all_takeWhile own hown
        have hname : IsName (String.ofList ((c :: others).takeWhile Text.isNameChar)) := by
          refine ⟨⟨c, others.takeWhile Text.isNameChar, ?_, hstart⟩, by simpa using hchars⟩
          rw [String.toList_ofList, List.takeWhile_cons_of_pos]
          rw [Text.isNameChar, hstart, Bool.true_or]
        generalize (c :: others).takeWhile Text.isNameChar = name at h hsplit hname
        generalize (c :: others).dropWhile Text.isNameChar = closing at h hsplit
        dsimp only at h
        split at h
        next rest =>
          cases h
          exact ⟨_, rest, ⟨hname, ['\x7d'], by decide, rfl⟩, by simp [← hsplit], by simp⟩
        next rest =>
          cases h
          exact ⟨_, rest, ⟨hname, ['.', '.', '.', '\x7d'], by decide, rfl⟩, by simp [← hsplit], by simp⟩
        · cases h
      · cases h
  · cases h

/-- Behind the dollar sign that it begins with, a placeholder has no other one. -/
theorem dollar_not_mem_tail {name : String} (hname : IsName name) {closing : List Char} (hclosing : closing ∈ closings) :
    '$' ∉ '{' :: (name.toList ++ closing) := by
  have hclose : '$' ∉ closing := by
    rcases mem_closings_iff.1 hclosing with rfl | rfl
    · decide
    · decide
  rw [List.mem_cons, List.mem_append]
  rintro (heq | hmem | hmem)
  · exact absurd heq (by decide)
  · exact absurd (hname.chars _ hmem) (by decide)
  · exact hclose hmem

/-- The tokens that a filled text falls apart at are the placeholders. -/
theorem reads_placeholderAt : Text.Reads placeholderAt? IsToken where
  eq_some_iff := by
    intro text found
    constructor
    · exact exists_token_of_placeholderAt?
    · rintro ⟨token, rest, htoken, rfl, hwidth⟩
      rw [placeholderAt?_token htoken, ← hwidth]
  ne_nil := by
    rintro name token ⟨-, closing, -, rfl⟩
    exact List.cons_ne_nil _ _
  apart := by
    rintro name other front inner later rest tail ⟨hname, closing, hclosing, htoken⟩ ⟨-, _, -, rfl⟩ hfront hinner htext
    obtain ⟨c, more, rfl⟩ := List.exists_cons_of_ne_nil hfront
    obtain ⟨d, others, rfl⟩ := List.exists_cons_of_ne_nil hinner
    cases (List.cons.inj htext).1
    refine dollar_not_mem_tail hname hclosing ?_
    rw [← (List.cons.inj htoken).2]
    simp

/-! ### Filled texts -/

section

variable {args : List (String × String)} {name value : String}

theorem fill_around {token : String} (htoken : IsToken name token.toList) (before after : String) :
    fill args (before ++ token ++ after) = fill args before ++ (args.lookup name).getD token ++ fill args after := by
  exact reads_placeholderAt.ofList_substitute_around htoken before after

theorem infix_fill (hname : IsName name) (hvalue : args.lookup name = some value) {text : String}
    (h : (placeholder name).toList <:+: text.toList) : value.toList <:+: (fill args text).toList := by
  obtain ⟨before, after, htext⟩ := h
  have hsplit : text = String.ofList before ++ placeholder name ++ String.ofList after := by
    rw [← String.toList_inj, ← htext]
    simp
  rw [hsplit, fill_around (isToken_placeholder hname), hvalue]
  exact ⟨(fill args (String.ofList before)).toList, (fill args (String.ofList after)).toList, by simp⟩

theorem fill_placeholder (hname : IsName name) (hvalue : args.lookup name = some value) :
    fill args (placeholder name) = value := by
  have hempty : fill args "" = "" := by
    simp [fill, Text.substitute]
  have hplaced : fill args ("" ++ placeholder name ++ "") = fill args "" ++ (args.lookup name).getD _ ++ fill args "" :=
    fill_around (isToken_placeholder hname) "" ""
  rw [hvalue, hempty] at hplaced
  simpa using hplaced

/-- A declared argument stands for its text, and for the empty text if its value does not fit. -/
theorem lookup_bind (declared : Table ArgumentType) (args : Table Json) (name : String) :
    (bind declared args).lookup name =
      (declared.get? name).map fun type => ((args.get? name).bind (argumentText? type)).getD "" := by
  have hdeclared : declared.get? name = declared.entries.lookup name := rfl
  rw [bind, hdeclared]
  induction declared.entries with
  | nil => rfl
  | cons entry rest ih =>
    obtain ⟨argument, type⟩ := entry
    rw [List.map_cons, List.lookup_cons, List.lookup_cons, ih]
    by_cases hsame : name = argument
    · subst hsame
      simp
    · simp [beq_false_of_ne hsame]

end

/-- Filling a text is one pass over its placeholders. Around a placeholder the texts before and behind are filled as if they stood alone, whatever they end or begin with, and between them stands what the name is bound to, whatever is in it, or the placeholder itself; a text without placeholders stays as it is. -/
theorem fill_piecewise (args : List (String × String)) :
    (∀ before token after name : String, IsToken name token.toList →
      fill args (before ++ token ++ after) = fill args before ++ (args.lookup name).getD token ++ fill args after) ∧
    ∀ text : String, (∀ name token, IsToken name token → ¬ token <:+: text.toList) → fill args text = text := by
  refine ⟨fun before token after name htoken => fill_around htoken before after, fun text htext => ?_⟩
  rw [fill, reads_placeholderAt.substitute_eq_self htext, String.ofList_toList]

theorem not_infix_of_not_mem {text : List Char} (htext : '\x7d' ∉ text) :
    ∀ name token, IsToken name token → ¬ token <:+: text := by
  rintro name token ⟨-, closing, hclosing, rfl⟩ hinside
  refine htext (hinside.subset ?_)
  rcases mem_closings_iff.1 hclosing with rfl | rfl
  · simp
  · simp

theorem fill_piecewise_fragments :
    IsToken "a" "$\x7ba...\x7d".toList ∧
      (∀ name token, IsToken name token → ¬ token <:+: "$\x7ba$\x7b".toList) ∧
      fill [("a", "$\x7ba\x7d")] ("$\x7ba$\x7b" ++ "$\x7ba...\x7d" ++ "$") = "$\x7ba$\x7b" ++ "$\x7ba\x7d" ++ "$" := by
  have htoken : IsToken "a" "$\x7ba...\x7d".toList :=
    ⟨⟨⟨'a', [], rfl, rfl⟩, List.all_eq_true.1 rfl⟩, _, List.mem_cons_of_mem _ List.mem_cons_self, rfl⟩
  have hbefore : ∀ name token, IsToken name token → ¬ token <:+: "$\x7ba$\x7b".toList := not_infix_of_not_mem (by decide)
  have hafter : ∀ name token, IsToken name token → ¬ token <:+: "$".toList := not_infix_of_not_mem (by decide)
  obtain ⟨haround, hself⟩ := fill_piecewise [("a", "$\x7ba\x7d")]
  refine ⟨htoken, hbefore, ?_⟩
  rw [haround _ _ _ _ htoken, hself _ hbefore, hself _ hafter]
  rfl

end Macro

end GuardedPlan
