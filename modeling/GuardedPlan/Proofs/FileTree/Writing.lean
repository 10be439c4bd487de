import GuardedPlan.Proofs.Base.Bytes
import GuardedPlan.Proofs.Base.Lists
import GuardedPlan.Proofs.FileTree.Walk

/-!
# Reading what was written

A file that is opened to be written stands at the location its path leads to, in a directory that the same path walks through when it is read. Writing changes nothing on that way, so the path leads to the file again.
-/

namespace GuardedPlan

def FileEntry.content? : FileEntry → Option ByteArray
  | file content _ => some content
  | directory => none

namespace FileTree

/-- A path can be opened to be written: it ends in a name, below a directory it can be walked to, and names no directory. -/
structure OpensAt (tree : FileTree) (path : String) (above : List String) (last : String) : Prop where
  segments : Path.segments path = above ++ [last]
  faultless : pathFault? path = none
  passable : Passable tree.root (tree.start path) (above ++ [""])
  named : last ≠ "" ∧ last ≠ "." ∧ last ≠ ".."
  short : last.utf8ByteSize ≤ maxNameBytes
  undirected : ∀ entries, tree.root.find? (tree.destination path) ≠ some (.directory entries)

theorem step_name {segment : String} (h : segment ≠ "" ∧ segment ≠ "." ∧ segment ≠ "..") (location : Location) :
    step location segment = location ++ [segment] := by
  rw [step, if_neg (not_or.2 ⟨h.1, h.2.1⟩), if_neg h.2.2]

theorem OpensAt.destination_eq {tree : FileTree} {path last : String} {above : List String}
    (h : tree.OpensAt path above last) : tree.destination path = above.foldl step (tree.start path) ++ [last] := by
  rw [destination, h.segments, List.foldl_append, List.foldl_cons, List.foldl_nil, step_name h.named]

/-- The directory that a path is opened in. -/
theorem OpensAt.exists_directory {tree : FileTree} {path last : String} {above : List String}
    (h : tree.OpensAt path above last) :
    ∃ entries, tree.root.find? (above.foldl step (tree.start path)) = some (.directory entries) :=
  (Passable.append_iff.1 h.passable).2.1

/-- What was looked at when a file was opened: its path ends in a name, the directory above could be walked to, and no directory has that name there. -/
theorem openForWriting_cases {tree : FileTree} {path : String} {location : Location} {before : ByteArray}
    (h : tree.openForWriting path = .ok (location, before)) :
    pathFault? path = none ∧ ∃ above last directory, Path.segments path = above ++ [last] ∧
      (last ≠ "" ∧ last ≠ "." ∧ last ≠ "..") ∧ last.utf8ByteSize ≤ maxNameBytes ∧
      (tree.origin path).walk (above ++ [""]) = .ok directory ∧ location = directory.location ++ [last] ∧
      (∀ entries, directory.here.bind (·.child? last) ≠ some (.directory entries)) ∧
      before = ((directory.here.bind (·.child? last)).bind (·.entry.content?)).getD .empty := by
  rw [openForWriting] at h
  cases hfault : pathFault? path with
  | some fault => simp [hfault] at h
  | none =>
    simp only [hfault] at h
    cases hsegments : (Path.segments path).reverse with
    | nil => simp [hsegments] at h
    | cons last above =>
      rw [hsegments] at h
      by_cases hempty : last = ""
      · -- an empty last segment is refused, whatever stands before it
        exfalso
        subst last
        split at h
        · cases h
        · split at h
          · cases h
          · simp at h
      have hpath : Path.segments path = above.reverse ++ [last] := by
        rw [← List.reverse_reverse (Path.segments path), hsegments, List.reverse_cons]
      rw [List.dropWhile_cons_of_neg (by simpa using hempty)] at h
      cases hwalk : (tree.origin path).walk (above.reverse ++ [""]) with
      | error fault => simp [hwalk] at h
      | ok directory =>
        simp only [hwalk, List.head?_cons, Option.some.injEq, hempty, or_false] at h
        by_cases hdots : last = "." ∨ last = ".."
        · simp [hdots] at h
        by_cases hlong : maxNameBytes < last.utf8ByteSize
        · simp [hdots, hlong] at h
        rw [if_neg hdots, if_neg hlong] at h
        refine ⟨rfl, above.reverse, last, directory, hpath, ⟨hempty, not_or.1 hdots⟩, Nat.not_lt.1 hlong, hwalk, ?_⟩
        cases hfound : directory.here.bind (·.child? last) with
        | none =>
          rw [hfound] at h
          cases h
          exact ⟨rfl, by simp, rfl⟩
        | some node =>
          cases node with
          | directory entries => simp [hfound] at h
          | file content isExecutable =>
            rw [hfound] at h
            cases h
            exact ⟨rfl, by simp, rfl⟩

/-- The bytes at a location, if a file stands there. -/
def content? (tree : FileTree) (place : Location) : Option ByteArray :=
  (tree.entry? place).bind FileEntry.content?

/-- A file is opened where its path leads, with the bytes that stand there. -/
theorem openForWriting_eq_ok {tree : FileTree} {path : String} {location : Location} {before : ByteArray}
    (h : tree.openForWriting path = .ok (location, before)) :
    location = tree.destination path ∧ (∃ above last, tree.OpensAt path above last) ∧
      before = (tree.content? location).getD .empty := by
  obtain ⟨hfault, above, last, directory, hpath, hnamed, hshort, hwalk, hlocation, hfree, hbefore⟩ := openForWriting_cases h
  rw [origin_eq] at hwalk
  obtain ⟨hpassable, rfl⟩ := walk_eq_ok_iff.1 hwalk
  have hstay : (above ++ [""]).foldl step (tree.start path) = above.foldl step (tree.start path) := by
    rw [List.foldl_append, List.foldl_cons, List.foldl_nil, step, if_pos (.inl rfl)]
  have hdestination : tree.destination path = above.foldl step (tree.start path) ++ [last] := by
    rw [destination, hpath, List.foldl_append, List.foldl_cons, List.foldl_nil, step_name hnamed]
  rw [hstay, location_spotAt, ← hdestination] at hlocation
  rw [hstay, here_spotAt, ← FileNode.find?_concat, ← hdestination] at hfree hbefore
  refine ⟨hlocation, ⟨above, last, hpath, hfault, hpassable, hnamed, hshort, hfree⟩, ?_⟩
  rw [hbefore, hlocation, content?, entry?, Option.bind_map]
  rfl

theorem putFile_eq (tree : FileTree) (location : Location) (content : ByteArray) :
    ∃ isExecutable, tree.putFile location content = tree.put location (.file content isExecutable) := by
  rw [putFile]
  split
  · exact ⟨_, rfl⟩
  · exact ⟨_, rfl⟩

/-- A file put where a path was opened is what the path leads to. -/
theorem OpensAt.node_putFile {tree : FileTree} {path last : String} {above : List String}
    (h : tree.OpensAt path above last) (content : ByteArray) :
    ∃ isExecutable, (tree.putFile (tree.destination path) content).node path = .ok (.file content isExecutable) := by
  obtain ⟨isExecutable, hput⟩ := putFile_eq tree (tree.destination path) content
  obtain ⟨entries, hentries⟩ := h.exists_directory
  refine ⟨isExecutable, ?_⟩
  have hkept : ∀ place entries, tree.root.find? place = some (.directory entries) → ∃ entries,
      (tree.root.put (.file content isExecutable) (tree.destination path)).find? place = some (.directory entries) :=
    fun place entries hplace => FileNode.find?_put_directory h.undirected hplace
  rw [hput, node_eq_ok_iff]
  refine ⟨h.faultless, ?_, ?_⟩
  · have hway := Passable.append_iff.1 (Passable.mono hkept h.passable)
    have hsegments : Passable (tree.root.put (.file content isExecutable) (tree.destination path)) (tree.start path)
        (above ++ [last]) := Passable.append_iff.2 ⟨hway.1, hway.2.1, h.short, trivial⟩
    rw [← h.segments] at hsegments
    exact hsegments
  · have hfound : (tree.root.put (.file content isExecutable) (above.foldl step (tree.start path) ++ [last])).find?
        (above.foldl step (tree.start path) ++ [last]) = some (.file content isExecutable) :=
      FileNode.find?_put_self hentries
    rw [← h.destination_eq] at hfound
    exact hfound

theorem write_eq_ok {tree stored : FileTree} {path : String} {content : ByteArray}
    (h : tree.write path content = .ok stored) : ∃ isExecutable, stored.node path = .ok (.file content isExecutable) := by
  obtain ⟨⟨location, before⟩, hopen, rfl⟩ := Except.map_eq_ok_iff.1 h
  obtain ⟨rfl, ⟨above, last, hopens⟩, -⟩ := openForWriting_eq_ok hopen
  exact hopens.node_putFile content

/-- A text that was written is read back. -/
theorem readText_of_write {tree stored : FileTree} {path text : String}
    (h : tree.write path text.toUTF8 = .ok stored) : stored.readText path = .ok text := by
  obtain ⟨isExecutable, hnode⟩ := write_eq_ok h
  have hstat : stored.stat path = .ok (.file text.toUTF8 isExecutable) := by
    rw [stat, hnode]
    rfl
  rw [readText, readBytes, hstat]
  dsimp only
  rw [text_of_its_bytes]

end FileTree

end GuardedPlan
