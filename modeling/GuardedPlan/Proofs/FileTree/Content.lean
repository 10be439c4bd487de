import GuardedPlan.Proofs.FileTree.Confined

/-!
# What files hold

Seen from outside, writing to a file puts bytes in the place of what it held, or behind it. A sequence of writes is known by these edits: whatever is written to a file before the last replacement is lost, and where nothing is replaced the file grows by all that is added. So the same edits once more change a file exactly if something is added to it and nothing replaced.
-/

namespace GuardedPlan

namespace FileTree

/-! ### Single writes -/

theorem ChangesOnly.content_eq {before after : FileTree} {written : List Location} {place : Location}
    (h : before.ChangesOnly after written) (hplace : place ∉ written) : after.content? place = before.content? place := by
  rcases h.kept place hplace with hsame | ⟨hmissing, hmade⟩
  · rw [content?, content?, hsame]
  · rw [content?, content?, hmissing, hmade]
    rfl

/-- A file that was opened and put holds what was put, and no other file changes. -/
theorem content_putFile {tree : FileTree} {path : String} {location : Location} {before : ByteArray}
    (h : tree.openForWriting path = .ok (location, before)) (content : ByteArray) (place : Location) :
    (tree.putFile location content).content? place =
      if place = tree.destination path then some content else tree.content? place := by
  have hchanges := changesOnly_putFile h content
  obtain ⟨rfl, ⟨above, last, hopens⟩, -⟩ := openForWriting_eq_ok h
  by_cases hplace : place = tree.destination path
  · obtain ⟨isExecutable, hnode⟩ := hopens.node_putFile content
    obtain ⟨-, -, hfound⟩ := node_eq_ok_iff.1 hnode
    rw [hchanges.destination] at hfound
    rw [if_pos hplace, hplace, content?, entry?, hfound]
    rfl
  · rw [if_neg hplace]
    exact hchanges.content_eq fun hmem => hplace (List.mem_singleton.1 hmem)

/-- A file below a directory holds what is put there, which may depend on what it held. -/
theorem PutsBelow.content_eq {tree written : FileTree} {directory path : String} {bytes : ByteArray → ByteArray}
    (h : tree.PutsBelow directory path bytes (.ok (), written)) (place : Location) :
    written.content? place =
      if place = tree.destination directory ++ Path.names [path] then some (bytes ((tree.content? place).getD .empty))
      else tree.content? place := by
  cases h with
  | @put prepared location before hprepare hopen =>
    have hprepared := tree.changesOnly_prepare directory path
    rw [hprepare] at hprepared
    have hdestination : prepared.destination (Path.below directory path) =
        tree.destination directory ++ Path.names [path] := by
      rw [hprepared.destination, destination_below tree directory (isContained_of_prepare hprepare)]
    have hsame : ∀ place, prepared.content? place = tree.content? place := fun place =>
      hprepared.content_eq List.not_mem_nil
    obtain ⟨hlocation, -, hbefore⟩ := openForWriting_eq_ok hopen
    rw [content_putFile hopen, hbefore, hlocation, hdestination, hsame, hsame]
    by_cases hplace : place = tree.destination directory ++ Path.names [path]
    · rw [if_pos hplace, if_pos hplace, hplace]
    · rw [if_neg hplace, if_neg hplace]

end FileTree

/-! ### Sequences of edits -/

/-- What a write does to the file at a place: it puts bytes in the place of what it held, or behind it. -/
structure Edit where
  place : Location
  replaces : Bool
  bytes : ByteArray

namespace Edit

/-- What the file at a place holds after an edit. -/
def after (edit : Edit) (place : Location) (content : Option ByteArray) : Option ByteArray :=
  if place = edit.place then
    some (if edit.replaces then edit.bytes else content.getD .empty ++ edit.bytes)
  else content

/-- What the file at a place holds after edits, made one after the other. -/
def through (edits : List Edit) (place : Location) (content : Option ByteArray) : Option ByteArray :=
  edits.foldl (fun content edit => edit.after place content) content

variable {edits : List Edit} {place : Location}

theorem through_cons (edit : Edit) (rest : List Edit) (place : Location) (content : Option ByteArray) :
    through (edit :: rest) place content = through rest place (edit.after place content) := rfl

/-- What a file held before it was replaced does not matter. -/
theorem through_of_replaced (h : ∃ edit ∈ edits, edit.place = place ∧ edit.replaces = true)
    (first second : Option ByteArray) : through edits place first = through edits place second := by
  induction edits generalizing first second with
  | nil => simp at h
  | cons edit rest ih =>
    rw [through_cons, through_cons]
    by_cases hrest : ∃ edit ∈ rest, edit.place = place ∧ edit.replaces = true
    · exact ih hrest _ _
    · obtain ⟨own, hmem, hplace, hreplaces⟩ := h
      rcases List.mem_cons.1 hmem with rfl | hmem
      · have hlost : ∀ content, own.after place content = some own.bytes := by
          intro content
          rw [after, if_pos hplace.symm, if_pos hreplaces]
        rw [hlost, hlost]
      · exact absurd ⟨own, hmem, hplace, hreplaces⟩ hrest

/-- A file that is not replaced grows by all that is added to it. -/
theorem exists_added (h : ¬ ∃ edit ∈ edits, edit.place = place ∧ edit.replaces = true) :
    ∃ added : ByteArray, (added.size = 0 ↔ ∀ edit ∈ edits, edit.place = place → edit.bytes.size = 0) ∧
      ∀ content, (through edits place content).getD .empty = content.getD .empty ++ added := by
  induction edits with
  | nil =>
    refine ⟨.empty, by simp, fun content => ?_⟩
    rw [ByteArray.append_empty]
    rfl
  | cons edit rest ih =>
    have hrest : ¬ ∃ edit ∈ rest, edit.place = place ∧ edit.replaces = true := by
      rintro ⟨own, hmem, hown⟩
      exact h ⟨own, List.mem_cons_of_mem _ hmem, hown⟩
    obtain ⟨added, hsize, hadded⟩ := ih hrest
    by_cases hplace : edit.place = place
    · have hkeeps : ¬ edit.replaces = true := fun hreplaces => h ⟨edit, List.mem_cons_self, hplace, hreplaces⟩
      refine ⟨edit.bytes ++ added, ?_, fun content => ?_⟩
      · rw [ByteArray.size_append, Nat.add_eq_zero_iff, hsize, List.forall_mem_cons]
        simp [hplace]
      · rw [through_cons, hadded, after, if_pos hplace.symm, if_neg hkeeps, Option.getD_some, ByteArray.append_assoc]
    · refine ⟨added, ?_, fun content => ?_⟩
      · rw [hsize, List.forall_mem_cons]
        simp [hplace]
      · rw [through_cons, hadded, after, if_neg fun hsame => hplace hsame.symm]

/-- A file stands where one stood and where one was edited. -/
theorem isSome_through (edits : List Edit) (place : Location) (content : Option ByteArray) :
    (through edits place content).isSome = true ↔ content.isSome = true ∨ ∃ edit ∈ edits, edit.place = place := by
  induction edits generalizing content with
  | nil => simp [through]
  | cons edit rest ih =>
    rw [through_cons, ih, after]
    by_cases hplace : place = edit.place
    · simp [hplace]
    · have hother : edit.place ≠ place := fun hsame => hplace hsame.symm
      simp [hplace, hother]

/-- The same edits once more leave a file as they left it exactly if they replace it or add nothing. -/
theorem through_again_iff (edits : List Edit) (place : Location) (content : Option ByteArray) :
    through edits place (through edits place content) = through edits place content ↔
      (∃ edit ∈ edits, edit.place = place ∧ edit.replaces = true) ∨
        ∀ edit ∈ edits, edit.place = place → edit.bytes.size = 0 := by
  by_cases hreplaced : ∃ edit ∈ edits, edit.place = place ∧ edit.replaces = true
  · exact iff_of_true (through_of_replaced hreplaced _ _) (.inl hreplaced)
  · obtain ⟨added, hsize, hadded⟩ := exists_added hreplaced
    rw [or_iff_right hreplaced, ← hsize]
    have hagain := hadded (through edits place content)
    have hstands := isSome_through edits place (through edits place content)
    have hstood := isSome_through edits place content
    generalize through edits place content = once at hagain hstands hstood ⊢
    generalize through edits place once = twice at hagain hstands ⊢
    constructor
    · rintro rfl
      have hgrown := congrArg ByteArray.size hagain
      rw [ByteArray.size_append] at hgrown
      omega
    · intro hnothing
      rw [ByteArray.size_eq_zero_iff.1 hnothing, ByteArray.append_empty] at hagain
      cases once with
      | none =>
        have hnone : ¬ twice.isSome = true := by
          rw [hstands]
          rintro (hsome | hedit)
          · cases hsome
          · exact absurd (hstood.2 (.inr hedit)) (by decide)
        exact Option.not_isSome_iff_eq_none.1 hnone
      | some bytes =>
        obtain ⟨other, rfl⟩ := Option.isSome_iff_exists.1 (hstands.2 (.inl rfl))
        exact congrArg some hagain

end Edit

end GuardedPlan
