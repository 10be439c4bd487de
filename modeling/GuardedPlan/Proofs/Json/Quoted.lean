import GuardedPlan.Json.Printer
import GuardedPlan.Proofs.Base.Lists

/-!
# Quoted texts

A text stands in JSON between quotation marks, with some characters escaped. An escape takes more characters than it stands for and brings in no quotation mark of any kind, so counting the marks tells where a quoted text begins and ends: a text stands there as it is exactly if nothing in it has to be escaped.
-/

namespace GuardedPlan.Json

/-- A character that is written as it is. -/
def Unescaped (c : Char) : Prop :=
  c ≠ '"' ∧ c ≠ '\\' ∧ 32 ≤ c.toNat

instance (c : Char) : Decidable (Unescaped c) :=
  inferInstanceAs (Decidable (_ ∧ _))

/-- The characters that are escaped. -/
def escapees : List Char :=
  '"' :: '\\' :: (List.range 32).map Char.ofNat

/-- The three kinds of quotation marks. -/
def marks : List Char :=
  ['"', '\x27', '\x60']

theorem mem_escapees_of_not_unescaped {c : Char} (h : ¬ Unescaped c) : c ∈ escapees := by
  by_cases hquote : c = '"'
  · simp [escapees, hquote]
  by_cases hbackslash : c = '\\'
  · simp [escapees, hbackslash]
  have hcontrol : c.toNat < 32 := Nat.lt_of_not_le fun hprinted => h ⟨hquote, hbackslash, hprinted⟩
  refine List.mem_cons_of_mem _ (List.mem_cons_of_mem _ (List.mem_map.2 ⟨c.toNat, ?_, c.ofNat_toNat⟩))
  exact List.mem_range.2 hcontrol

theorem escapedChar_of_unescaped {c : Char} (h : Unescaped c) : escapedChar c = [c] := by
  obtain ⟨hquote, hbackslash, hcontrol⟩ := h
  have hother : ∀ d : Char, d.toNat < 32 → c ≠ d := by
    rintro d hd rfl
    omega
  rw [escapedChar, if_neg hquote, if_neg hbackslash, if_neg (hother _ (by decide)), if_neg (hother _ (by decide)),
    if_neg (hother _ (by decide)), if_neg (by omega), if_neg (by omega), if_neg (by omega)]

theorem escapedChar_escapees : ∀ c ∈ escapees,
    1 < (escapedChar c).length ∧ ∀ mark ∈ marks, (escapedChar c).count mark = [c].count mark := by
  have hall : (escapees.all fun c => 1 < (escapedChar c).length &&
      marks.all fun mark => (escapedChar c).count mark == [c].count mark) = true := by
    decide
  simpa using hall

theorem count_escapedChar {mark : Char} (hmark : mark ∈ marks) (c : Char) :
    (escapedChar c).count mark = [c].count mark := by
  by_cases hplain : Unescaped c
  · rw [escapedChar_of_unescaped hplain]
  · exact (escapedChar_escapees c (mem_escapees_of_not_unescaped hplain)).2 mark hmark

theorem count_flatMap_escapedChar {mark : Char} (hmark : mark ∈ marks) (text : List Char) :
    (text.flatMap escapedChar).count mark = text.count mark := by
  induction text with
  | nil => rfl
  | cons c rest ih =>
    rw [List.flatMap_cons, List.count_append, ih, count_escapedChar hmark, ← List.count_append, List.singleton_append]

theorem length_le_length_flatMap (text : List Char) : text.length ≤ (text.flatMap escapedChar).length := by
  induction text with
  | nil => exact Nat.le_refl 0
  | cons c rest ih =>
    have hpositive : 1 ≤ (escapedChar c).length := by
      by_cases hplain : Unescaped c
      · rw [escapedChar_of_unescaped hplain]
        exact Nat.le_refl 1
      · exact Nat.le_of_lt (escapedChar_escapees c (mem_escapees_of_not_unescaped hplain)).1
    rw [List.flatMap_cons, List.length_append, List.length_cons]
    omega

theorem flatMap_escapedChar_eq_self_iff {text : List Char} :
    text.flatMap escapedChar = text ↔ ∀ c ∈ text, Unescaped c := by
  constructor
  · intro h
    induction text with
    | nil => simp
    | cons c rest ih =>
      rw [List.flatMap_cons] at h
      by_cases hplain : Unescaped c
      · rw [escapedChar_of_unescaped hplain, List.singleton_append] at h
        exact List.forall_mem_cons.2 ⟨hplain, ih (List.cons.inj h).2⟩
      · exfalso
        have hlonger := (escapedChar_escapees c (mem_escapees_of_not_unescaped hplain)).1
        have hrest := length_le_length_flatMap rest
        have hlength := congrArg List.length h
        rw [List.length_append, List.length_cons] at hlength
        omega
  · intro h
    induction text with
    | nil => rfl
    | cons c rest ih =>
      obtain ⟨hplain, hrest⟩ := List.forall_mem_cons.1 h
      rw [List.flatMap_cons, escapedChar_of_unescaped hplain, ih hrest, List.singleton_append]

theorem stringText_of_unescaped {text : String} (h : ∀ c ∈ text.toList, Unescaped c) :
    stringText text = '"' :: text.toList ++ ['"'] := by
  rw [stringText, flatMap_escapedChar_eq_self_iff.2 h]

/-! ### Lists of texts -/

theorem stringText_infix_compactItems {text : String} {texts : List String} (h : text ∈ texts) :
    stringText text <:+: compactItems (texts.map string) := by
  induction texts with
  | nil => cases h
  | cons first rest ih =>
    have hfirst : compactText (.string first) = stringText first := by rw [compactText]
    cases rest with
    | nil =>
      simp only [List.mem_singleton.1 h, List.map_cons, List.map_nil, compactItems, hfirst, List.infix_rfl]
    | cons second others =>
      rw [List.map_cons, List.map_cons, compactItems, hfirst, ← List.map_cons]
      · rcases List.mem_cons.1 h with rfl | hmem
        · exact (List.prefix_append _ _).isInfix
        · exact (ih hmem).trans ((List.suffix_cons _ _).trans (List.suffix_append _ _)).isInfix
      · simp

/-- Every text of a list stands in it between quotes. -/
theorem stringText_infix_compact {text : String} {texts : List String} (h : text ∈ texts) :
    stringText text <:+: (strings texts).compact.toList := by
  have harray : (strings texts).compact.toList = '[' :: compactItems (texts.map string) ++ [']'] := by
    rw [compact, String.toList_ofList, strings, compactText]
  rw [harray, List.cons_append]
  exact (stringText_infix_compactItems h).trans ((List.prefix_append _ _).isInfix.trans (List.suffix_cons _ _).isInfix)

theorem compact_strings_singleton (text : String) :
    (strings [text]).compact.toList = '[' :: '"' :: (text.toList.flatMap escapedChar ++ ['"', ']']) := by
  rw [compact, String.toList_ofList, strings, compactText, List.map_cons, List.map_nil, compactItems, compactText,
    stringText]
  simp

/-- In a list of one text, the text stands between marks of some kind as it is exactly if nothing in it is escaped. -/
theorem exists_marked_infix_iff (text : String) :
    (∃ mark ∈ marks, mark :: text.toList ++ [mark] <:+: (strings [text]).compact.toList) ↔
      ∀ c ∈ text.toList, Unescaped c := by
  constructor
  · rintro ⟨mark, hmark, hinside⟩
    have hcount := count_flatMap_escapedChar hmark text.toList
    rw [compact_strings_singleton] at hinside
    by_cases hquote : mark = '"'
    · -- all the quotes of the list stand in the marked text, so it begins at the first one and ends at the last one
      subst hquote
      obtain ⟨before, after, htext⟩ := hinside
      have hall := congrArg (List.count '"') htext
      simp only [List.count_append, List.count_cons_self, List.count_nil, hcount, List.count_cons_of_ne, ne_eq,
        Char.reduceEq, not_false_eq_true] at hall
      have hbefore : '"' ∉ before := List.count_eq_zero.1 (by omega)
      have hafter : '"' ∉ after := List.count_eq_zero.1 (by omega)
      have hopen : before ++ '"' :: (text.toList ++ '"' :: after) =
          ['['] ++ '"' :: (text.toList.flatMap escapedChar ++ '"' :: [']']) := by
        simpa using htext
      obtain ⟨-, hclose⟩ := eq_of_append_cons_eq hopen hbefore (by decide)
      obtain ⟨hsame, -⟩ := eq_of_append_cons_eq_last hclose hafter (by decide)
      exact flatMap_escapedChar_eq_self_iff.1 hsame.symm
    · -- a mark of another kind stands in the list as often as in the text itself
      exfalso
      have hinside := hinside.sublist.count_le mark
      have hopen : '[' ≠ mark ∧ '"' ≠ mark ∧ ']' ≠ mark := by
        simp only [marks, List.mem_cons, List.not_mem_nil, or_false] at hmark
        rcases hmark with rfl | rfl | rfl
        · exact absurd rfl hquote
        · decide
        · decide
      obtain ⟨hleft, hdouble, hright⟩ := hopen
      simp only [List.count_append, List.count_cons_self, List.count_nil, hcount, List.count_cons_of_ne hleft,
        List.count_cons_of_ne hdouble, List.count_cons_of_ne hright, List.cons_append] at hinside
      omega
  · intro h
    refine ⟨'"', by decide, ?_⟩
    rw [← stringText_of_unescaped h]
    exact stringText_infix_compact List.mem_cons_self

end GuardedPlan.Json
