import GuardedPlan.Execution.Verdict
import GuardedPlan.Proofs.FileTree.Content

/-!
# What stands stays

Making directories and writing files takes nothing away: whatever stands at a location still stands there afterwards, and a directory is still one, although a file may hold something else. So a path that names something goes on naming something, whatever is written later.
-/

namespace GuardedPlan.FileTree

/-- Between two trees nothing was lost. -/
structure Keeps (before after : FileTree) : Prop where
  current : after.current = before.current
  stands : ∀ place, after.entry? place = none → before.entry? place = none
  directories : ∀ place, before.entry? place = some .directory → after.entry? place = some .directory

theorem Keeps.trans {before middle after : FileTree} (hfirst : before.Keeps middle) (hsecond : middle.Keeps after) :
    before.Keeps after where
  current := hsecond.current.trans hfirst.current
  stands place hnone := hfirst.stands place (hsecond.stands place hnone)
  directories place hplace := hsecond.directories place (hfirst.directories place hplace)

theorem MakesAlong.keeps {before after : FileTree} {start : Location} {way : List String}
    (h : before.MakesAlong after start way) : before.Keeps after := by
  refine ⟨h.current, fun place hnone => ?_, fun place hplace => ?_⟩
  · rcases h.made place with hsame | ⟨hmissing, -, -⟩
    · exact hsame.symm.trans hnone
    · exact hmissing
  · rcases h.made place with hsame | ⟨hmissing, -, -⟩
    · exact hsame.trans hplace
    · rw [hplace] at hmissing
      cases hmissing

theorem keeps_putFile {tree : FileTree} {path : String} {location : Location} {before : ByteArray}
    (h : tree.openForWriting path = .ok (location, before)) (content : ByteArray) :
    tree.Keeps (tree.putFile location content) := by
  have hconfined := confined_putFile h List.nil_prefix content
  refine ⟨hconfined.current, fun place hnone => ?_, hconfined.directories⟩
  have hcontent := content_putFile h content place
  by_cases hplace : place = tree.destination path
  · rw [if_pos hplace, content?, hnone] at hcontent
    cases hcontent
  · have hkept := (changesOnly_putFile h content).kept place fun hmem => hplace (List.mem_singleton.1 hmem)
    rcases hkept with hsame | ⟨hmissing, -⟩
    · exact hsame.symm.trans hnone
    · exact hmissing

/-- Putting a file below a directory takes nothing away, whether or not it succeeds. -/
theorem PutsBelow.keeps {tree : FileTree} {directory path : String} {bytes : ByteArray → ByteArray}
    {outcome : Except OpFault Unit × FileTree} (h : tree.PutsBelow directory path bytes outcome) :
    tree.Keeps outcome.2 := by
  have hprepared := (tree.makesAlong_prepare directory path).keeps
  cases h with
  | failed fault => exact hprepared
  | @put prepared location before hprepare hopen =>
    rw [hprepare] at hprepared
    exact hprepared.trans (keeps_putFile hopen (bytes before))

/-! ### Paths that name something -/

theorem pathExists_iff {tree : FileTree} {path : String} :
    tree.pathExists path = true ↔ pathFault? path = none ∧ Passable tree.root (tree.start path) (Path.segments path) ∧
      tree.entry? (tree.destination path) ≠ none := by
  have hstat : tree.pathExists path = true ↔ ∃ entry, tree.stat path = .ok entry := by
    rw [pathExists]
    cases tree.stat path <;> simp [Except.toBool]
  simp only [hstat, stat_eq_ok_iff, exists_and_left, Option.ne_none_iff_exists']

theorem Keeps.pathExists {before after : FileTree} (h : before.Keeps after) {path : String}
    (hpath : before.pathExists path = true) : after.pathExists path = true := by
  obtain ⟨hfault, hpassable, hstands⟩ := pathExists_iff.1 hpath
  refine pathExists_iff.2 ⟨hfault, ?_, ?_⟩
  · rw [start_congr h.current]
    exact hpassable.mono (exists_directory_of_kept h.directories)
  · rw [destination_congr h.current]
    exact fun hnone => hstands (h.stands _ hnone)

theorem Keeps.existsBelow {before after : FileTree} (h : before.Keeps after) {directory path : String}
    (hpath : before.existsBelow directory path = .ok true) : after.existsBelow directory path = .ok true := by
  rw [FileTree.existsBelow] at hpath ⊢
  by_cases hcontained : Path.isContained path = true
  · rw [if_pos hcontained] at hpath ⊢
    rw [h.pathExists (Except.ok.inj hpath)]
  · rw [if_neg hcontained] at hpath
    cases hpath

/-- A file that was put below a directory is there. -/
theorem PutsBelow.existsBelow {tree written : FileTree} {directory path : String} {bytes : ByteArray → ByteArray}
    (h : tree.PutsBelow directory path bytes (.ok (), written)) : written.existsBelow directory path = .ok true := by
  rw [FileTree.existsBelow, if_pos h.isContained]
  cases h with
  | @put prepared location before hprepare hopen =>
    obtain ⟨rfl, ⟨above, last, hopens⟩, -⟩ := openForWriting_eq_ok hopen
    obtain ⟨isExecutable, hnode⟩ := hopens.node_putFile (bytes before)
    rw [pathExists, stat, hnode]
    rfl

end GuardedPlan.FileTree
