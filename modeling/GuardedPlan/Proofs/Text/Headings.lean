import GuardedPlan.Headings
import GuardedPlan.Proofs.Text.Lines

/-!
# Titles written as headings

Whatever a title is, a document in which it is written as a heading has that section: the text around the line, the level and white space around the title that is asked for make no difference. Hash marks that close the line are no part of its title, so a title that ends in one is found only where closing marks, set apart by white space, follow it.
-/

namespace GuardedPlan.Headings

open Text

/-! ### The title of a line -/

theorem title?_marks {level : Nat} (hlow : 1 ≤ level) (hhigh : level ≤ 6) (rest : List Char) :
    title? (List.replicate level '#' ++ ' ' :: rest) = some (trimEnd (dropEndWhile (· = '#') (trim rest))) := by
  have hstart : trimStart (List.replicate level '#' ++ ' ' :: rest) = List.replicate level '#' ++ ' ' :: rest := by
    obtain ⟨more, rfl⟩ := Nat.exists_eq_add_of_le' hlow
    rw [trimStart, List.replicate_succ, List.cons_append, List.dropWhile_cons_of_neg (by decide)]
  have hmarks : (List.replicate level '#' ++ ' ' :: rest).takeWhile (· = '#') = List.replicate level '#' := by
    rw [List.takeWhile_append_of_pos (by simp [List.mem_replicate]), List.takeWhile_cons_of_neg (by decide),
      List.append_nil]
  have hbody : (List.replicate level '#' ++ ' ' :: rest).drop level = ' ' :: rest :=
    List.drop_left' List.length_replicate
  have htrim : trim (' ' :: rest) = trim rest := @trim_append_left _ [' '] (by decide)
  have hlevel : ¬ (level = 0 ∨ 6 < level) := by omega
  simp only [title?, hstart, hmarks, List.length_replicate, if_neg hlevel, hbody, htrim]
  rfl

/-- What may follow a title on its line: nothing, if the title does not end in a hash mark itself, or hash marks set apart by white space. -/
inductive Closes (title : List Char) : List Char → Prop
  | bare : '#' ∉ (trim title).getLast? → Closes title []
  | marks {gap trail : List Char} {more : Nat} : gap ≠ [] → Blank gap → Blank trail → '\n' ∉ gap → '\n' ∉ trail →
    Closes title (gap ++ List.replicate (more + 1) '#' ++ trail)

theorem Closes.not_mem {title closing : List Char} (h : Closes title closing) : '\n' ∉ closing := by
  cases h with
  | bare _ => exact List.not_mem_nil
  | marks _ _ _ hgap htrail =>
    intro hmem
    rcases List.mem_append.1 hmem with hmem | hmem
    · rcases List.mem_append.1 hmem with hmem | hmem
      · exact hgap hmem
      · exact absurd (List.eq_of_mem_replicate hmem) (by decide)
    · exact htrail hmem

/-- The marks that close a line are taken off, and a title keeps its own. -/
theorem title_closed {title closing : List Char} (hfilled : ¬ Blank title) (h : Closes title closing) :
    trimEnd (dropEndWhile (· = '#') (trim (title ++ closing))) = trim title := by
  have hend : trimEnd (trim title) = trim title := dropEndWhile_eq_self fun _ hlast => isBlank_of_getLast?_trim hlast
  cases h with
  | bare hlast =>
    rw [List.append_nil, dropEndWhile_eq_self, hend]
    intro c hc
    exact decide_eq_false fun heq => hlast (heq ▸ hc)
  | @marks gap trail more hgap hblank htrail _ _ =>
    have hlast : ∀ c ∈ (gap ++ List.replicate (more + 1) '#').getLast?, isBlank c = false := by
      intro c hc
      rw [List.getLast?_append, List.getLast?_replicate, if_neg (Nat.succ_ne_zero more), Option.some_or] at hc
      cases hc
      decide
    obtain ⟨tail, htail, htrim⟩ := exists_trim_append hfilled (List.append_ne_nil_of_left_ne_nil hgap _) hlast
    have hspace : Blank (tail ++ gap) := htail.append hblank
    have hmarks : dropEndWhile (· = '#') (trim title ++ tail ++ gap) = trim title ++ tail ++ gap := by
      apply dropEndWhile_eq_self
      intro c hc
      rw [List.getLast?_append_of_ne_nil _ hgap] at hc
      refine decide_eq_false fun heq => ?_
      have hmark := hblank c (List.mem_of_getLast? hc)
      rw [heq] at hmark
      exact absurd hmark (by decide)
    rw [← List.append_assoc, trim_append_right htrail, htrim, ← List.append_assoc,
      dropEndWhile_append_of_pos (by simp [List.mem_replicate]), hmarks, List.append_assoc, trimEnd,
      dropEndWhile_append_of_pos hspace]
    exact hend

theorem title?_line {level : Nat} (hlow : 1 ≤ level) (hhigh : level ≤ 6) {title closing ending : List Char}
    (hfilled : ¬ Blank title) (hcloses : Closes title closing) (hending : Blank ending) :
    title? (withoutLineEnd (List.replicate level '#' ++ ' ' :: (title ++ closing ++ ending))) = some (trim title) := by
  obtain ⟨tail, hline, htail⟩ := exists_withoutLineEnd (List.replicate level '#' ++ ' ' :: (title ++ closing ++ ending))
  generalize withoutLineEnd (List.replicate level '#' ++ ' ' :: (title ++ closing ++ ending)) = line at hline
  rw [List.append_cons] at hline
  rcases List.append_eq_append_iff.1 hline with ⟨body, hbody, hrest⟩ | ⟨more, -, hmore⟩
  · have htrim : trim body = trim (title ++ closing) := by
      rw [← @trim_append_right body tail htail, ← hrest, trim_append_right hending]
    rw [hbody, ← List.append_cons, title?_marks hlow hhigh, htrim, title_closed hfilled hcloses]
  · -- no more than white space is taken off, and the title holds something else
    refine absurd (fun c hc => htail c ?_) hfilled
    rw [hmore]
    simp [hc]

theorem title?_blank {line : List Char} (h : Blank line) : title? line = none := by
  have hstart : trimStart line = [] := by
    rw [trimStart, ← List.append_nil line, List.dropWhile_append_of_pos h, List.dropWhile_nil]
  simp only [title?, hstart]
  rfl

/-! ### The section of a heading -/

/-- Whether a line is a heading of a title, which is given in lower case. -/
def isHeading (wanted line : List Char) : Bool :=
  (title? (withoutLineEnd line)).any fun found => lowercase found = wanted

theorem hasSection_eq_any (document title : String) :
    hasSection document title = (linesWithEnds document.toList).any (isHeading (lowercase (trim title.toList))) := by
  rw [hasSection, lines, List.any_map]
  apply congrArg (linesWithEnds document.toList).any
  funext line
  rw [Function.comp_apply, isHeading]
  cases title? (withoutLineEnd line) with
  | none => rfl
  | some found => rfl

theorem isHeading_blank {wanted line : List Char} (h : Blank line) : isHeading wanted line = false := by
  obtain ⟨ending, hline, -⟩ := exists_withoutLineEnd line
  have hbody : Blank (withoutLineEnd line) := by
    intro c hc
    apply h
    rw [hline]
    exact List.mem_append_left _ hc
  rw [isHeading, title?_blank hbody]
  rfl

/-- The line that makes a title a heading. -/
def heading (level : Nat) (title : String) : String :=
  String.ofList (List.replicate level '#') ++ " " ++ title

section

variable {level : Nat} {title closing : String}

theorem toList_heading (level : Nat) (title closing : String) : (heading level title ++ closing).toList =
    List.replicate level '#' ++ ' ' :: (title.toList ++ closing.toList) := by
  simp [heading]

theorem isHeading_heading (hlow : 1 ≤ level) (hhigh : level ≤ 6) (hfilled : ¬ Blank title.toList)
    (hcloses : Closes title.toList closing.toList) {ending : List Char} (hending : Blank ending) (wanted : List Char) :
    isHeading wanted ((heading level title ++ closing).toList ++ ending) =
      decide (lowercase (trim title.toList) = wanted) := by
  rw [isHeading, toList_heading, List.append_assoc, List.cons_append, title?_line hlow hhigh hfilled hcloses hending]
  rfl

/-- A heading answers for its title and for no other one, and leaves the answers of the text around it as they are. -/
theorem hasSection_append (hlow : 1 ≤ level) (hhigh : level ≤ 6) (hline : '\n' ∉ title.toList)
    (hfilled : ¬ Blank title.toList) (hcloses : Closes title.toList closing.toList)
    {before after : String} (hbefore : Complete before.toList) (hafter : Continued after.toList) (asked : String) :
    hasSection (before ++ heading level title ++ closing ++ after) asked =
      (hasSection before asked || decide (lowercase (trim title.toList) = lowercase (trim asked.toList)) ||
        hasSection after asked) := by
  have hwhole : '\n' ∉ (heading level title ++ closing).toList := by
    rw [toList_heading]
    simp [List.mem_replicate, hline, hcloses.not_mem]
  have hsome : (heading level title ++ closing).toList ≠ [] := by
    rw [toList_heading]
    exact List.append_ne_nil_of_right_ne_nil _ (List.cons_ne_nil _ _)
  obtain ⟨ending, later, hlines, hending, hrest⟩ := exists_linesWithEnds_eq hbefore hwhole hsome hafter
  have hlater : (linesWithEnds after.toList).any (isHeading (lowercase (trim asked.toList))) =
      later.any (isHeading (lowercase (trim asked.toList))) := by
    rcases hrest with hsame | hcons
    · rw [hsame]
    · rw [hcons, List.any_cons, isHeading_blank hending, Bool.false_or]
  have hdocument : (before ++ heading level title ++ closing ++ after).toList =
      before.toList ++ (heading level title ++ closing).toList ++ after.toList := by
    simp only [String.toList_append, List.append_assoc]
  rw [hasSection_eq_any, hasSection_eq_any, hasSection_eq_any, hdocument, hlines, List.any_append, List.any_cons,
    isHeading_heading hlow hhigh hfilled hcloses hending, hlater, Bool.or_assoc]

/-- A document in which a title is written as a heading has that section, and the heading makes it have no other one. -/
theorem hasSection_heading (hlow : 1 ≤ level) (hhigh : level ≤ 6) (hline : '\n' ∉ title.toList)
    (hfilled : ¬ Blank title.toList) (hcloses : Closes title.toList closing.toList)
    {before after : String} (hbefore : Complete before.toList) (hafter : Continued after.toList) :
    (∀ lead trail : String, Blank lead.toList → Blank trail.toList →
      hasSection (before ++ heading level title ++ closing ++ after) (lead ++ title ++ trail) = true) ∧
    ∀ asked : String, hasSection (before ++ heading level title ++ closing ++ after) asked = true →
      hasSection before asked = true ∨ lowercase (trim title.toList) = lowercase (trim asked.toList) ∨
        hasSection after asked = true := by
  have hanswer := hasSection_append hlow hhigh hline hfilled hcloses hbefore hafter
  constructor
  · intro lead trail hlead htrail
    have hasked : trim (lead ++ title ++ trail).toList = trim title.toList := by
      rw [String.toList_append, String.toList_append, trim_append_right htrail, trim_append_left hlead]
    rw [hanswer, hasked, decide_eq_true rfl, Bool.or_true, Bool.true_or]
  · intro asked h
    rw [hanswer, Bool.or_eq_true, Bool.or_eq_true, decide_eq_true_eq, or_assoc] at h
    exact h

end

theorem hasSection_heading_samples :
    hasSection ("x\n" ++ heading 3 "C#" ++ " ## " ++ "\r\ny") (" " ++ "C#" ++ "\t") = true ∧
    hasSection ("" ++ heading 6 " #1 \u00c4rger " ++ "" ++ "") ("" ++ " #1 \u00c4rger " ++ "") = true := by
  have hclosed : Closes "C#".toList " ## ".toList :=
    @Closes.marks _ [' '] [' '] 1 (by decide) (by decide) (by decide) (by decide) (by decide)
  have hbare : Closes " #1 \u00c4rger ".toList "".toList := .bare (by decide)
  constructor
  · exact (@hasSection_heading 3 "C#" " ## " (by decide) (by decide) (by decide) (by decide) hclosed "x\n" "\r\ny"
      (by decide) (by decide)).1 " " "\t" (by decide) (by decide)
  · exact (@hasSection_heading 6 " #1 \u00c4rger " "" (by decide) (by decide) (by decide) (by decide) hbare "" ""
      (by decide) (by decide)).1 "" "" (by decide) (by decide)

/-- The marks at the end of a title that no closing marks follow are taken for closing marks. -/
theorem not_hasSection_marks :
    '\n' ∉ "Setup ##".toList ∧ ¬ Blank "Setup ##".toList ∧
    hasSection ("\n" ++ heading 1 "Setup ##" ++ "\n") "Setup ##" = false ∧
    hasSection ("\n" ++ heading 1 "Setup ##" ++ "\n") "Setup" = true := by
  decide +kernel

end GuardedPlan.Headings
