import GuardedPlan.Proofs.Base.Lists
import GuardedPlan.Proofs.Text.Trim
import GuardedPlan.Text.Lines

/-!
# The lines of a text

`Lines` says what the lines of a text are without saying how they are found: each ends in its first line feed, and only the last may be without one. A text has one list of lines, and where a text is put together after a line feed, so are its lines.
-/

namespace GuardedPlan.Text

inductive Lines : List Char → List (List Char) → Prop
  | nil : Lines [] []
  | last {line} : line ≠ [] → '\n' ∉ line → Lines line [line]
  | cons {body rest lines} : '\n' ∉ body → Lines rest lines →
    Lines (body ++ '\n' :: rest) ((body ++ ['\n']) :: lines)

/-- Nothing, or a text whose last line is complete. -/
def Complete (text : List Char) : Prop :=
  ∀ c ∈ text.getLast?, c = '\n'

instance (text : List Char) : Decidable (Complete text) :=
  decidable_of_iff (text.getLast?.all (· = '\n')) (by simp [Complete, Option.all_eq_true])

theorem complete_line_append (body rest : List Char) : Complete (body ++ '\n' :: rest) ↔ Complete rest := by
  rw [Complete, Complete, List.getLast?_append, List.getLast?_cons]
  cases rest.getLast? with
  | none => simp
  | some last => simp

/-- Nothing, or a text that begins with a line break. -/
def Continued (text : List Char) : Prop :=
  text = [] ∨ ['\n'] <+: text ∨ ['\r', '\n'] <+: text

instance (text : List Char) : Decidable (Continued text) :=
  inferInstanceAs (Decidable (text = [] ∨ ['\n'] <+: text ∨ ['\r', '\n'] <+: text))

namespace Lines

variable {text : List Char} {lines : List (List Char)}

theorem flatten (h : Lines text lines) : lines.flatten = text := by
  induction h with
  | nil => rfl
  | last _ _ => exact List.append_nil _
  | cons _ _ ih => rw [List.flatten_cons, ih, List.append_assoc, List.singleton_append]

theorem cons_char (h : Lines text lines) {c : Char} (hc : c ≠ '\n') :
    (lines = [] ∧ Lines (c :: text) [[c]]) ∨
    ∃ line later, lines = line :: later ∧ Lines (c :: text) ((c :: line) :: later) := by
  have hnot : ∀ body : List Char, '\n' ∉ body → '\n' ∉ c :: body := by
    intro body hbody hmem
    rcases List.mem_cons.1 hmem with heq | hmem
    · exact hc heq.symm
    · exact hbody hmem
  cases h with
  | nil => exact .inl ⟨rfl, .last (List.cons_ne_nil _ _) (hnot [] List.not_mem_nil)⟩
  | last _ hbody => exact .inr ⟨_, _, rfl, .last (List.cons_ne_nil _ _) (hnot _ hbody)⟩
  | @cons body _ _ hbody hrest => exact .inr ⟨_, _, rfl, @Lines.cons (c :: body) _ _ (hnot _ hbody) hrest⟩

theorem append (h : Lines text lines) (hcomplete : Complete text) {more : List Char} {others : List (List Char)}
    (hmore : Lines more others) : Lines (text ++ more) (lines ++ others) := by
  induction h with
  | nil => exact hmore
  | @last line hfilled hline =>
    -- a complete text holds the line feed that its last line would be without
    obtain ⟨c, hlast⟩ := Option.ne_none_iff_exists'.1 (mt List.getLast?_eq_none_iff.1 hfilled)
    have hc := hcomplete c hlast
    exact absurd (hc ▸ List.mem_of_getLast? hlast) hline
  | @cons body rest _ hbody _ ih =>
    rw [List.append_assoc, List.cons_append, List.cons_append]
    exact .cons hbody (ih ((complete_line_append body rest).1 hcomplete))

/-- A line feed at most makes the last line complete. -/
theorem exists_complete (h : Lines text lines) :
    ∃ added completed, Lines (text ++ added) completed ∧ Complete (text ++ added) ∧ (added = [] ∨ added = ['\n']) ∧
      ((∀ line ∈ lines, ¬ Blank line) → ∀ line ∈ completed, ¬ Blank line) := by
  induction h with
  | nil => exact ⟨[], [], .nil, by decide, .inl rfl, fun h => h⟩
  | @last line _ hline =>
    refine ⟨['\n'], [line ++ ['\n']], .cons hline .nil, by simp [Complete], .inr rfl, ?_⟩
    intro hfilled
    simp only [List.forall_mem_singleton] at hfilled ⊢
    exact fun hblank => hfilled fun c hc => hblank c (List.mem_append_left _ hc)
  | @cons body rest _ hbody _ ih =>
    obtain ⟨added, completed, hlines, hcomplete, hadded, hfilled⟩ := ih
    have hassoc : body ++ '\n' :: (rest ++ added) = body ++ '\n' :: rest ++ added := by simp
    have hcons := Lines.cons hbody hlines
    have hend := (complete_line_append body _).2 hcomplete
    rw [hassoc] at hcons hend
    refine ⟨added, (body ++ ['\n']) :: completed, hcons, hend, hadded, ?_⟩
    intro hall
    obtain ⟨hfirst, hlater⟩ := List.forall_mem_cons.1 hall
    exact List.forall_mem_cons.2 ⟨hfirst, hfilled hlater⟩

theorem unique (h : Lines text lines) {others : List (List Char)} (hothers : Lines text others) : lines = others := by
  generalize htext : text = again at hothers
  induction h generalizing again others with
  | nil =>
    cases hothers with
    | nil => rfl
    | last hfilled _ => exact absurd htext.symm hfilled
    | cons _ _ => exact absurd htext.symm (List.append_ne_nil_of_right_ne_nil _ (List.cons_ne_nil _ _))
  | last hfilled hline =>
    cases hothers with
    | nil => exact absurd htext hfilled
    | last _ _ => rw [htext]
    | cons _ _ => exact absurd (htext ▸ List.mem_append_right _ List.mem_cons_self) hline
  | cons hbody _ ih =>
    cases hothers with
    | nil => exact absurd htext (List.append_ne_nil_of_right_ne_nil _ (List.cons_ne_nil _ _))
    | last _ hline => exact absurd (htext ▸ List.mem_append_right _ List.mem_cons_self) hline
    | cons hother hlater =>
      obtain ⟨rfl, rfl⟩ := eq_of_append_cons_eq htext hbody hother
      rw [ih _ rfl hlater]

end Lines

theorem lines_linesWithEnds (text : List Char) : Lines text (linesWithEnds text) := by
  induction text with
  | nil => exact .nil
  | cons c rest ih =>
    by_cases hc : c = '\n'
    · subst hc
      rw [linesWithEnds]
      exact @Lines.cons [] _ _ List.not_mem_nil ih
    · rw [linesWithEnds.eq_3 c rest (fun h => hc h)]
      rcases ih.cons_char hc with ⟨hnil, hlines⟩ | ⟨line, later, hcons, hlines⟩
      · rw [hnil]
        exact hlines
      · rw [hcons]
        exact hlines

theorem Lines.linesWithEnds_eq {text : List Char} {lines : List (List Char)} (h : Lines text lines) :
    linesWithEnds text = lines :=
  (lines_linesWithEnds text).unique h

variable {before line after : List Char}

theorem exists_lines_line (hline : '\n' ∉ line) (hfilled : line ≠ []) (hafter : Continued after) :
    ∃ ending later, Lines (line ++ after) ((line ++ ending) :: later) ∧ Blank ending ∧
      (linesWithEnds after = later ∨ linesWithEnds after = ending :: later) := by
  rcases hafter with rfl | ⟨later, rfl⟩ | ⟨later, rfl⟩
  · refine ⟨[], [], ?_, by decide, .inl rfl⟩
    rw [List.append_nil]
    exact .last hfilled hline
  · have hrest : Lines (['\n'] ++ later) (['\n'] :: linesWithEnds later) :=
      @Lines.cons [] later _ List.not_mem_nil (lines_linesWithEnds later)
    exact ⟨['\n'], _, .cons hline (lines_linesWithEnds later), by decide, .inr hrest.linesWithEnds_eq⟩
  · have hbody : '\n' ∉ line ++ ['\r'] := by simp [hline]
    have hlines := Lines.cons hbody (lines_linesWithEnds later)
    rw [List.append_assoc, List.append_assoc] at hlines
    have hrest : Lines (['\r', '\n'] ++ later) (['\r', '\n'] :: linesWithEnds later) :=
      @Lines.cons ['\r'] later _ (by decide) (lines_linesWithEnds later)
    exact ⟨['\r', '\n'], _, hlines, by decide, .inr hrest.linesWithEnds_eq⟩

/-- A line of a longer text is found there with nothing but its end added, between the lines before it and those after it. -/
theorem exists_linesWithEnds_eq (hbefore : Complete before) (hline : '\n' ∉ line) (hfilled : line ≠ [])
    (hafter : Continued after) :
    ∃ ending later, linesWithEnds (before ++ line ++ after) = linesWithEnds before ++ (line ++ ending) :: later ∧
      Blank ending ∧ (linesWithEnds after = later ∨ linesWithEnds after = ending :: later) := by
  obtain ⟨ending, later, hlines, hrest⟩ := exists_lines_line hline hfilled hafter
  refine ⟨ending, later, ?_, hrest⟩
  rw [List.append_assoc]
  exact ((lines_linesWithEnds before).append hbefore hlines).linesWithEnds_eq

/-- Taking the end off a line takes nothing but white space off. -/
theorem exists_withoutLineEnd (line : List Char) : ∃ ending, line = withoutLineEnd line ++ ending ∧ Blank ending := by
  rw [withoutLineEnd]
  split
  case h_1 body hreverse =>
    refine ⟨['\r', '\n'], ?_, by decide⟩
    rw [← List.reverse_reverse line, hreverse]
    simp
  case h_2 body _ hreverse =>
    refine ⟨['\n'], ?_, by decide⟩
    rw [← List.reverse_reverse line, hreverse]
    simp
  case h_3 => exact ⟨[], (List.append_nil _).symm, by decide⟩

end GuardedPlan.Text
