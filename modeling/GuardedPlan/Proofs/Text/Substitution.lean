import GuardedPlan.Text.Substitution

/-!
# One pass over the tokens of a text

What substitution does for any kind of token, as long as its reader finds tokens and nothing else and no token begins inside another one. Then a token is met wherever it stands, whatever the text before it ends in: a reader that jumps over a token before it cannot have jumped into it, and one that stands on a character before it sees there what it would see without it. The text falls apart at its tokens, and what was put in their places is never looked at.
-/

namespace GuardedPlan.Text

/-- A reader of tokens: at the front of a text it finds the tokens of a name and nothing else, and no token begins inside another one. -/
structure Reads (recognize : List Char → Option Placeholder) (IsToken : String → List Char → Prop) : Prop where
  eq_some_iff : ∀ {text : List Char} {found : Placeholder}, recognize text = some found ↔
    ∃ token rest, IsToken found.name token ∧ text = token ++ rest ∧ found.width = token.length
  ne_nil : ∀ {name : String} {token : List Char}, IsToken name token → token ≠ []
  apart : ∀ {name other : String} {front inner later rest tail : List Char}, IsToken name (front ++ inner) →
    IsToken other later → front ≠ [] → inner ≠ [] → inner ++ rest ≠ later ++ tail

/-- What is written in the place of a token: the value of its name, or the token itself. -/
def placed (value : String → Option String) (name : String) (token : List Char) : List Char :=
  ((value name).map String.toList).getD token

variable {recognize : List Char → Option Placeholder} {IsToken : String → List Char → Prop}
  {value : String → Option String}

theorem substitute_of_none {c : Char} {rest : List Char} (h : recognize (c :: rest) = none) :
    substitute recognize value (c :: rest) = c :: substitute recognize value rest := by
  rw [substitute, h]

namespace Reads

variable (h : Reads recognize IsToken)
include h

theorem recognize_token {name : String} {token : List Char} (htoken : IsToken name token) (rest : List Char) :
    recognize (token ++ rest) = some ⟨name, token.length⟩ :=
  h.eq_some_iff.2 ⟨token, rest, htoken, rfl, rfl⟩

/-- A token at the front of a text is replaced, and the pass goes on behind it. -/
theorem substitute_token {name : String} {token : List Char} (htoken : IsToken name token) (rest : List Char) :
    substitute recognize value (token ++ rest) = placed value name token ++ substitute recognize value rest := by
  have hfound := h.recognize_token htoken rest
  obtain ⟨c, more, rfl⟩ := List.exists_cons_of_ne_nil (h.ne_nil htoken)
  rw [List.cons_append] at hfound ⊢
  rw [substitute, hfound]
  dsimp only
  have hwritten : (c :: (more ++ rest)).take (c :: more).length = c :: more := List.take_left
  have hrest : (more ++ rest).drop ((c :: more).length - 1) = rest := List.drop_left
  rw [hwritten, hrest, placed]
  cases value name with
  | none => rfl
  | some text => rfl

/-- Where a token follows, a character before it begins a token only if it does so without what follows. -/
theorem token_before {before own token rest tail : List Char} {name other : String} (hown : IsToken other own)
    (htoken : IsToken name token) (hbefore : before ≠ []) (htext : before ++ (token ++ rest) = own ++ tail) :
    ∃ left, before = own ++ left ∧ tail = left ++ (token ++ rest) := by
  rcases List.append_eq_append_iff.1 htext with ⟨beyond, rfl, hrest⟩ | hleft
  · cases beyond with
    | nil => exact ⟨[], by simp, by simpa using hrest.symm⟩
    | cons c more => exact absurd hrest.symm (h.apart hown htoken hbefore (List.cons_ne_nil c more))
  · exact hleft

theorem substitute_append {name : String} {token : List Char} (htoken : IsToken name token) (before rest : List Char) :
    substitute recognize value (before ++ (token ++ rest)) =
      substitute recognize value before ++ substitute recognize value (token ++ rest) := by
  -- by length, as the pass may jump over several characters at once
  induction hlength : before.length using Nat.strongRecOn generalizing before with
  | ind length ih =>
    cases before with
    | nil => rw [List.nil_append, substitute, List.nil_append]
    | cons c more =>
      rw [List.length_cons] at hlength
      cases hfound : recognize (c :: (more ++ (token ++ rest))) with
      | none =>
        have hnone : recognize (c :: more) = none := by
          refine Option.eq_none_iff_forall_ne_some.2 fun found hshort => ?_
          obtain ⟨own, tail, hown, htext, hwidth⟩ := h.eq_some_iff.1 hshort
          have hlong : recognize (c :: (more ++ (token ++ rest))) = some found :=
            h.eq_some_iff.2 ⟨own, tail ++ (token ++ rest), hown, by rw [← List.cons_append, htext, List.append_assoc], hwidth⟩
          rw [hfound] at hlong
          cases hlong
        rw [List.cons_append, substitute_of_none hfound, substitute_of_none hnone, ih more.length (by omega) more rfl,
          List.cons_append]
      | some found =>
        obtain ⟨own, tail, hown, htext, -⟩ := h.eq_some_iff.1 hfound
        obtain ⟨left, hbefore, rfl⟩ := h.token_before hown htoken (List.cons_ne_nil c more) htext
        have hshorter : left.length < length := by
          have hsum := congrArg List.length hbefore
          have hpositive := List.length_pos_iff.2 (h.ne_nil hown)
          rw [List.length_cons, List.length_append] at hsum
          omega
        rw [hbefore, List.append_assoc, h.substitute_token hown, h.substitute_token hown, ih left.length hshorter left rfl,
          List.append_assoc]

theorem substitute_around {name : String} {token : List Char} (htoken : IsToken name token) (before rest : List Char) :
    substitute recognize value (before ++ (token ++ rest)) =
      substitute recognize value before ++ (placed value name token ++ substitute recognize value rest) := by
  rw [h.substitute_append htoken, h.substitute_token htoken]

theorem ofList_substitute_around {name token : String} (htoken : IsToken name token.toList) (before after : String) :
    String.ofList (substitute recognize value (before ++ token ++ after).toList) =
      String.ofList (substitute recognize value before.toList) ++ (value name).getD token ++
        String.ofList (substitute recognize value after.toList) := by
  have hplaced : placed value name token.toList = ((value name).getD token).toList := by
    rw [placed]
    cases value name with
    | none => rfl
    | some text => rfl
  have hpieces := @h.substitute_around _ _ value _ _ htoken before.toList after.toList
  rw [String.append_assoc, String.toList_append, String.toList_append, hpieces, hplaced, String.append_assoc,
    String.ofList_append, String.ofList_append, String.ofList_toList]

/-- A text without tokens stays as it is. -/
theorem substitute_eq_self {text : List Char} (htext : ∀ name token, IsToken name token → ¬ token <:+: text) :
    substitute recognize value text = text := by
  induction text with
  | nil => rw [substitute]
  | cons c rest ih =>
    have hnone : recognize (c :: rest) = none := by
      refine Option.eq_none_iff_forall_ne_some.2 fun found hfound => ?_
      obtain ⟨token, tail, htoken, hsplit, -⟩ := h.eq_some_iff.1 hfound
      exact htext _ _ htoken ⟨[], tail, hsplit.symm⟩
    rw [substitute_of_none hnone, ih fun name token htoken hinside => htext name token htoken (List.infix_cons hinside)]

end Reads

end GuardedPlan.Text
