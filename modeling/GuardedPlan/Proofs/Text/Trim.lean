import GuardedPlan.Text.Blank
import Mathlib.Data.List.Basic

/-!
# White space at the ends of a text

A text is its trimmed form between two runs of white space, and the trimmed form neither begins nor ends with white space. From this follows what trimming does to a text that is put between such runs.
-/

namespace GuardedPlan.Text

/-- Nothing but white space. -/
def Blank (text : List Char) : Prop :=
  ∀ c ∈ text, isBlank c = true

theorem isBlankText_iff {text : List Char} : isBlankText text = true ↔ Blank text :=
  List.all_eq_true

instance (text : List Char) : Decidable (Blank text) :=
  decidable_of_iff _ isBlankText_iff

theorem Blank.append {text more : List Char} (h : Blank text) (hmore : Blank more) : Blank (text ++ more) :=
  List.forall_mem_append.2 ⟨h, hmore⟩

section

variable {α : Type} {p : α → Bool} {items tail : List α}

theorem dropEndWhile_append_of_pos (h : ∀ item ∈ tail, p item = true) :
    dropEndWhile p (items ++ tail) = dropEndWhile p items := by
  rw [dropEndWhile, dropEndWhile, List.reverse_append, List.dropWhile_append_of_pos]
  intro item hitem
  exact h item (List.mem_reverse.1 hitem)

theorem dropEndWhile_eq_self (h : ∀ item ∈ items.getLast?, p item = false) : dropEndWhile p items = items := by
  rw [dropEndWhile]
  cases hreverse : items.reverse with
  | nil => exact (List.reverse_eq_nil_iff.1 hreverse).symm
  | cons last rest =>
    have hlast : p last = false := by
      apply h
      rw [← List.head?_reverse, hreverse]
      rfl
    rw [List.dropWhile_cons_of_neg (by simp [hlast]), ← hreverse, List.reverse_reverse]

theorem exists_dropEndWhile (p : α → Bool) (items : List α) :
    ∃ tail, items = dropEndWhile p items ++ tail ∧ ∀ item ∈ tail, p item = true := by
  refine ⟨(items.reverse.takeWhile p).reverse, ?_, ?_⟩
  · rw [dropEndWhile, ← List.reverse_append, List.takeWhile_append_dropWhile, List.reverse_reverse]
  · intro item hitem
    exact List.all_eq_true.1 List.all_takeWhile item (List.mem_reverse.1 hitem)

theorem not_of_getLast?_dropEndWhile {item : α} (h : item ∈ (dropEndWhile p items).getLast?) : p item = false := by
  rw [dropEndWhile, List.getLast?_reverse] at h
  have hhead := List.head?_dropWhile_not p items.reverse
  rw [Option.mem_def.1 h] at hhead
  simpa using hhead

end

variable {text lead trail : List Char}

theorem trim_eq_self (hfirst : ∀ c ∈ text.head?, isBlank c = false) (hlast : ∀ c ∈ text.getLast?, isBlank c = false) :
    trim text = text := by
  have hstart : trimStart text = text := by
    cases text with
    | nil => rfl
    | cons c rest => exact List.dropWhile_cons_of_neg (by simp [hfirst c rfl])
  rw [trim, hstart]
  exact dropEndWhile_eq_self hlast

theorem trim_append_left (h : Blank lead) : trim (lead ++ text) = trim text := by
  rw [trim, trim, trimStart, List.dropWhile_append_of_pos h]
  rfl

theorem trim_append_right (h : Blank trail) : trim (text ++ trail) = trim text := by
  rw [trim, trim, trimStart, trimStart, List.dropWhile_append]
  cases hstart : text.dropWhile isBlank with
  | nil =>
    have hrest : trail.dropWhile isBlank = [] := by
      rw [← List.append_nil trail, List.dropWhile_append_of_pos h, List.dropWhile_nil]
    rw [List.isEmpty_nil, if_pos rfl, hrest]
  | cons c rest =>
    rw [List.isEmpty_cons, if_neg Bool.false_ne_true]
    exact dropEndWhile_append_of_pos h

/-- A text is its trimmed form between white space. -/
theorem exists_trim (text : List Char) :
    ∃ lead trail, text = lead ++ trim text ++ trail ∧ Blank lead ∧ Blank trail := by
  obtain ⟨trail, htrail, hblank⟩ := exists_dropEndWhile isBlank (trimStart text)
  refine ⟨text.takeWhile isBlank, trail, ?_, fun c hc => List.all_eq_true.1 List.all_takeWhile c hc, hblank⟩
  rw [List.append_assoc, trim, trimEnd, ← htrail, trimStart, List.takeWhile_append_dropWhile]

theorem isBlank_of_head?_trim {c : Char} (h : c ∈ (trim text).head?) : isBlank c = false := by
  obtain ⟨trail, htrail, -⟩ := exists_dropEndWhile isBlank (trimStart text)
  have hstart : c ∈ (trimStart text).head? := by
    rw [htrail, List.head?_append]
    exact Option.mem_def.2 (by rw [show (dropEndWhile isBlank (trimStart text)).head? = some c from h, Option.some_or])
  have hhead := List.head?_dropWhile_not isBlank text
  rw [trimStart] at hstart
  rw [Option.mem_def.1 hstart] at hhead
  simpa using hhead

theorem isBlank_of_getLast?_trim {c : Char} (h : c ∈ (trim text).getLast?) : isBlank c = false :=
  not_of_getLast?_dropEndWhile h

theorem trim_eq_nil_iff : trim text = [] ↔ Blank text := by
  constructor
  · intro h
    obtain ⟨lead, trail, htext, hlead, htrail⟩ := exists_trim text
    rw [htext, h, List.append_nil]
    exact hlead.append htrail
  · intro h
    rw [← List.append_nil text, trim_append_left h]
    rfl

/-- What follows a text keeps the end of its trimmed form from being one. -/
theorem exists_trim_append {more : List Char} (hfilled : ¬ Blank text) (hmore : more ≠ [])
    (hlast : ∀ c ∈ more.getLast?, isBlank c = false) :
    ∃ tail, Blank tail ∧ trim (text ++ more) = trim text ++ tail ++ more := by
  obtain ⟨lead, tail, htext, hlead, htail⟩ := exists_trim text
  have hsome : trim text ≠ [] := mt trim_eq_nil_iff.1 hfilled
  refine ⟨tail, htail, ?_⟩
  conv => lhs; rw [htext]
  rw [List.append_assoc, List.append_assoc, trim_append_left hlead, ← List.append_assoc]
  apply trim_eq_self
  · intro c hc
    rw [List.append_assoc, List.head?_append_of_ne_nil _ hsome] at hc
    exact isBlank_of_head?_trim hc
  · intro c hc
    rw [List.getLast?_append_of_ne_nil _ hmore] at hc
    exact hlast c hc

end GuardedPlan.Text
