import GuardedPlan.Proofs.FileTree.Confined

/-!
# What reading depends on

A walk that never climbs sees only what is below its beginning. So two trees that are the same in a directory cannot be told apart by contained paths below that directory, whatever stands elsewhere in them. And no walk looks into a file on its way. Where a path leads is the same in all trees with files and directories at the same locations, and a text that is read depends on the one file there.
-/

namespace GuardedPlan

def FileEntry.isDirectory : FileEntry → Bool
  | directory => true
  | file .. => false

namespace FileTree

/-! ### Below a directory -/

/-- Two trees are the same in a directory that both have. -/
structure SameBelow (directory : String) (first second : FileTree) : Prop where
  stands : first.isDirectory directory = true ∧ second.isDirectory directory = true
  node : first.root.find? (first.destination directory) = second.root.find? (second.destination directory)

theorem enter_of_not_climb {first second : Spot} (h : first.here = second.here) {segment : String}
    (hclimb : segment ≠ "..") :
    (first.enter segment).map Spot.here = (second.enter segment).map Spot.here := by
  rw [Spot.enter, Spot.enter, h]
  cases hhere : second.here with
  | none => rfl
  | some node =>
    cases node with
    | file content isExecutable => rfl
    | directory entries =>
      dsimp only
      by_cases hstay : segment = "" ∨ segment = "."
      · rw [if_pos hstay, if_pos hstay, Except.map, Except.map, h]
      · rw [if_neg hstay, if_neg hstay, if_neg hclimb, if_neg hclimb]
        by_cases hlong : maxNameBytes < segment.utf8ByteSize
        · rw [if_pos hlong, if_pos hlong]
        · rw [if_neg hlong, if_neg hlong]
          rfl

/-- A walk that never climbs sees only what is below its beginning. -/
theorem here_walk {first second : Spot} (h : first.here = second.here) {segments : List String}
    (hclimb : ".." ∉ segments) :
    (first.walk segments).map Spot.here = (second.walk segments).map Spot.here := by
  induction segments generalizing first second with
  | nil => exact congrArg Except.ok h
  | cons segment rest ih =>
    have hsegment : segment ≠ ".." := fun hsame => hclimb (hsame ▸ List.mem_cons_self)
    have henter := enter_of_not_climb h hsegment
    rw [Spot.walk, Spot.walk]
    cases hfirst : first.enter segment with
    | error fault =>
      cases hsecond : second.enter segment with
      | error other =>
        rw [hfirst, hsecond] at henter
        exact henter
      | ok next =>
        rw [hfirst, hsecond] at henter
        cases henter
    | ok next =>
      cases hsecond : second.enter segment with
      | error other =>
        rw [hfirst, hsecond] at henter
        cases henter
      | ok other =>
        rw [hfirst, hsecond] at henter
        exact ih (Except.ok.inj henter) (List.not_mem_of_not_mem_cons hclimb)

theorem walk_append (spot : Spot) (first second : List String) :
    spot.walk (first ++ second) = (spot.walk first).bind fun next => next.walk second := by
  induction first generalizing spot with
  | nil => rfl
  | cons segment rest ih =>
    rw [List.cons_append, Spot.walk, Spot.walk]
    cases spot.enter segment with
    | error fault => rfl
    | ok next => exact ih next

/-- Below a directory that exists, the walk of a contained path begins in that directory. -/
theorem spot_below {tree : FileTree} {directory path : String} (hdirectory : tree.isDirectory directory = true) :
    tree.spot (Path.below directory path) =
      match pathFault? (Path.below directory path) with
      | some fault => .error fault
      | none => (spotAt tree.root (tree.destination directory)).walk (Path.segments path) := by
  have hempty := ne_empty_of_isDirectory hdirectory
  obtain ⟨lead, hbelow, hlead⟩ := Path.segments_below directory path hempty
  obtain ⟨-, hpassable, -⟩ := isDirectory_iff.1 hdirectory
  have hway : Passable tree.root (tree.start directory) lead := by
    rcases hlead with hsame | hslash
    · exact hsame ▸ hpassable
    · rw [hslash] at hpassable
      exact (Passable.append_iff.1 hpassable).1
  rw [spot]
  cases pathFault? (Path.below directory path) with
  | some fault => rfl
  | none =>
    dsimp only
    rw [origin_eq, start_below tree hempty, hbelow, walk_append, walk_eq_ok_iff.2 ⟨hway, rfl⟩, destination_of_lead hlead]
    rfl

/-- What a contained path names below a directory depends on nothing but what is in that directory. -/
theorem node_below_congr {first second : FileTree} {directory path : String} (h : first.SameBelow directory second)
    (hpath : Path.isContained path = true) :
    first.node (Path.below directory path) = second.node (Path.below directory path) := by
  have hhere : (spotAt first.root (first.destination directory)).here =
      (spotAt second.root (second.destination directory)).here := by
    rw [here_spotAt, here_spotAt]
    exact h.node
  have hwalk := here_walk hhere (Path.climb_not_mem_segments hpath)
  rw [node, node, spot_below h.stands.1, spot_below h.stands.2]
  cases pathFault? (Path.below directory path) with
  | some fault => rfl
  | none =>
    dsimp only
    generalize (spotAt first.root (first.destination directory)).walk (Path.segments path) = left at hwalk ⊢
    generalize (spotAt second.root (second.destination directory)).walk (Path.segments path) = right at hwalk ⊢
    cases left with
    | error fault =>
      cases right with
      | error other => rw [Except.error.inj hwalk]
      | ok other => cases hwalk
    | ok spot =>
      cases right with
      | error other => cases hwalk
      | ok other =>
        dsimp only
        rw [Except.ok.inj hwalk]

/-! ### Trees of one shape -/

/-- Two trees are seen from the same directory and have files and directories at the same locations, whatever the files hold. -/
structure SameShape (first second : FileTree) : Prop where
  current : first.current = second.current
  kinds : ∀ place, (first.entry? place).map FileEntry.isDirectory = (second.entry? place).map FileEntry.isDirectory

theorem enter_of_long {root : FileNode} {location : Location} {entries : List (String × FileNode)} {segment : String}
    (h : root.find? location = some (.directory entries)) (hlong : maxNameBytes < segment.utf8ByteSize) :
    (spotAt root location).enter segment = .error .nameTooLong := by
  have hstay : ¬ (segment = "" ∨ segment = ".") := by
    rintro (rfl | rfl) <;> exact absurd hlong (by decide)
  have hclimb : segment ≠ ".." := by
    rintro rfl
    exact absurd hlong (by decide)
  rw [Spot.enter, here_spotAt, h]
  dsimp only
  rw [if_neg hstay, if_neg hclimb, if_pos hlong]

/-- A step looks at nothing but the kind of what it starts from. -/
theorem enter_cases {first second : FileNode} {location : Location}
    (h : (first.find? location).map (·.entry.isDirectory) = (second.find? location).map (·.entry.isDirectory))
    (segment : String) :
    ((spotAt first location).enter segment = .ok (spotAt first (step location segment)) ∧
      (spotAt second location).enter segment = .ok (spotAt second (step location segment))) ∨
    ∃ fault, (spotAt first location).enter segment = .error fault ∧
      (spotAt second location).enter segment = .error fault := by
  rcases hfirst : first.find? location with - | ⟨content, isExecutable⟩ | ⟨entries⟩ <;>
    rcases hsecond : second.find? location with - | ⟨other, isOtherExecutable⟩ | ⟨others⟩ <;>
    rw [hfirst, hsecond] at h
  case none.none =>
    refine .inr ⟨.notFound, ?_, ?_⟩
    · rw [Spot.enter, here_spotAt, hfirst]
    · rw [Spot.enter, here_spotAt, hsecond]
  case some.file.some.file =>
    refine .inr ⟨.notDirectory, ?_, ?_⟩
    · rw [Spot.enter, here_spotAt, hfirst]
    · rw [Spot.enter, here_spotAt, hsecond]
  case some.directory.some.directory =>
    by_cases hlong : maxNameBytes < segment.utf8ByteSize
    · exact .inr ⟨.nameTooLong, enter_of_long hfirst hlong, enter_of_long hsecond hlong⟩
    · have hshort := Nat.not_lt.1 hlong
      exact .inl ⟨enter_eq_ok_iff.2 ⟨⟨entries, hfirst⟩, hshort, rfl⟩,
        enter_eq_ok_iff.2 ⟨⟨others, hsecond⟩, hshort, rfl⟩⟩
  -- nothing else is of one kind
  all_goals cases h

theorem walk_cases {first second : FileNode}
    (h : ∀ place, (first.find? place).map (·.entry.isDirectory) = (second.find? place).map (·.entry.isDirectory))
    (location : Location) (segments : List String) :
    ((spotAt first location).walk segments = .ok (spotAt first (segments.foldl step location)) ∧
      (spotAt second location).walk segments = .ok (spotAt second (segments.foldl step location))) ∨
    ∃ fault, (spotAt first location).walk segments = .error fault ∧
      (spotAt second location).walk segments = .error fault := by
  induction segments generalizing location with
  | nil => exact .inl ⟨rfl, rfl⟩
  | cons segment rest ih =>
    rw [Spot.walk, Spot.walk, List.foldl_cons]
    rcases enter_cases (h location) segment with ⟨hfirst, hsecond⟩ | ⟨fault, hfirst, hsecond⟩
    · rw [hfirst, hsecond]
      exact ih (step location segment)
    · rw [hfirst, hsecond]
      exact .inr ⟨fault, rfl, rfl⟩

theorem stat_of_spot_eq_error {tree : FileTree} {path : String} {fault : FileFault} (h : tree.spot path = .error fault) :
    tree.stat path = .error fault := by
  rw [stat, node, h]
  rfl

theorem stat_of_spot_eq_ok {tree : FileTree} {path : String} {location : Location}
    (h : tree.spot path = .ok (spotAt tree.root location)) :
    tree.stat path = (tree.entry? location).elim (.error .notFound) .ok := by
  rw [stat, node, h]
  dsimp only
  rw [here_spotAt, entry?]
  cases tree.root.find? location <;> rfl

namespace SameShape

variable {first second : FileTree}

/-- In both trees a path is walked to the same location, or with the same fault. -/
theorem stat_cases (h : first.SameShape second) (path : String) :
    (Passable first.root (first.start path) (Path.segments path) ∧
      first.stat path = (first.entry? (first.destination path)).elim (.error .notFound) .ok ∧
      second.stat path = (second.entry? (first.destination path)).elim (.error .notFound) .ok) ∨
    ∃ fault, first.stat path = .error fault ∧ second.stat path = .error fault := by
  have hkinds : ∀ place, (first.root.find? place).map (·.entry.isDirectory) =
      (second.root.find? place).map (·.entry.isDirectory) := by
    intro place
    have hplace := h.kinds place
    unfold entry? at hplace
    rw [Option.map_map, Option.map_map] at hplace
    exact hplace
  cases hfault : pathFault? path with
  | some fault =>
    have hspot : ∀ tree : FileTree, tree.spot path = .error fault := by
      intro tree
      rw [spot, hfault]
    exact .inr ⟨fault, stat_of_spot_eq_error (hspot first), stat_of_spot_eq_error (hspot second)⟩
  | none =>
    have hfirst : first.spot path = (spotAt first.root (first.start path)).walk (Path.segments path) := by
      rw [spot, hfault, origin_eq]
    have hsecond : second.spot path = (spotAt second.root (first.start path)).walk (Path.segments path) := by
      rw [spot, hfault, origin_eq, start_congr h.current]
    rcases walk_cases hkinds (first.start path) (Path.segments path) with ⟨hleft, hright⟩ | ⟨fault, hleft, hright⟩
    · exact .inl ⟨(walk_eq_ok_iff.1 hleft).1, stat_of_spot_eq_ok (hfirst.trans hleft),
        stat_of_spot_eq_ok (hsecond.trans hright)⟩
    · exact .inr ⟨fault, stat_of_spot_eq_error (hfirst.trans hleft), stat_of_spot_eq_error (hsecond.trans hright)⟩

theorem isFile_eq (h : first.SameShape second) (path : String) : first.isFile path = second.isFile path := by
  have hkind := h.kinds (first.destination path)
  rw [isFile, isFile]
  rcases h.stat_cases path with ⟨-, hfirst, hsecond⟩ | ⟨fault, hfirst, hsecond⟩
  · rw [hfirst, hsecond]
    generalize first.entry? (first.destination path) = left at hkind ⊢
    generalize second.entry? (first.destination path) = right at hkind ⊢
    cases left with
    | none => rw [Option.map_eq_none_iff.1 hkind.symm]
    | some entry =>
      obtain ⟨other, rfl, hother⟩ := Option.map_eq_some_iff.1 hkind.symm
      cases entry with
      | directory =>
        cases other with
        | directory => rfl
        | file content isExecutable => cases hother
      | file content isExecutable =>
        cases other with
        | directory => cases hother
        | file bytes isOtherExecutable => rfl
  · rw [hfirst, hsecond]

end SameShape

/-! ### Files that matter -/

/-- An answer about a tree reads a file if it would be another one for something else in that file. -/
def Reads {α : Type} (tree : FileTree) (answer : FileTree → α) (place : Location) : Prop :=
  (tree.content? place).isSome = true ∧ ∃ content, answer (tree.putFile place content) ≠ answer tree

/-- A file stands where there is content. -/
theorem exists_file_of_content {tree : FileTree} {place : Location} (h : (tree.content? place).isSome = true) :
    ∃ content isExecutable, tree.root.find? place = some (.file content isExecutable) := by
  rw [content?, entry?] at h
  cases hfound : tree.root.find? place with
  | none => simp [hfound] at h
  | some node =>
    cases node with
    | file content isExecutable => exact ⟨content, isExecutable, rfl⟩
    | directory entries => simp [hfound, FileNode.entry, FileEntry.content?] at h

/-- Other content in a file is seen at no other location. -/
theorem entry_putFile_of_ne {tree : FileTree} {place other : Location} (h : (tree.content? place).isSome = true)
    (hother : other ≠ place) (content : ByteArray) :
    entry? (tree.putFile place content) other = tree.entry? other := by
  obtain ⟨old, isExecutable, hfound⟩ := exists_file_of_content h
  obtain ⟨isOtherExecutable, hput⟩ := putFile_eq tree place content
  have hundirected : ∀ entries, tree.root.find? place ≠ some (.directory entries) := by
    intro entries hdirectory
    rw [hfound] at hdirectory
    cases hdirectory
  rw [hput]
  exact FileNode.entry_put_of_ne (fun _ => rfl) hundirected hother

theorem sameShape_putFile {tree : FileTree} {place : Location} (h : (tree.content? place).isSome = true)
    (content : ByteArray) : tree.SameShape (tree.putFile place content) := by
  obtain ⟨old, isExecutable, hfound⟩ := exists_file_of_content h
  obtain ⟨isOtherExecutable, hput⟩ := putFile_eq tree place content
  refine ⟨by rw [hput]; rfl, fun other => ?_⟩
  by_cases hother : other = place
  · subst other
    rw [hput, put, entry?, entry?]
    rcases FileNode.find?_put_self_or tree.root (.file content isOtherExecutable) place with hnew | hsame
    · rw [hnew, hfound]
      rfl
    · rw [hsame]
  · rw [entry_putFile_of_ne h hother]

/-- Reading the text of a path reads no file but the one that the path leads to, through directories. -/
theorem destination_of_readText_ne {tree : FileTree} {place : Location} (h : (tree.content? place).isSome = true)
    {content : ByteArray} {path : String} (hne : (tree.putFile place content).readText path ≠ tree.readText path) :
    place = tree.destination path ∧ Passable tree.root (tree.start path) (Path.segments path) := by
  have hshape := sameShape_putFile h content
  have hstat : tree.stat path ≠ (tree.putFile place content).stat path := by
    intro hsame
    rw [readText, readText, readBytes, readBytes, hsame] at hne
    exact hne rfl
  rcases hshape.stat_cases path with ⟨hpassable, hfirst, hsecond⟩ | ⟨fault, hfirst, hsecond⟩
  · refine ⟨?_, hpassable⟩
    by_cases hplace : tree.destination path = place
    · exact hplace.symm
    · rw [hfirst, hsecond, entry_putFile_of_ne h hplace] at hstat
      exact absurd rfl hstat
  · rw [hfirst, hsecond] at hstat
    exact absurd rfl hstat

/-- A text that was read stands where the path leads. -/
theorem content_of_readText {tree : FileTree} {path text : String} (h : tree.readText path = .ok text) :
    tree.content? (tree.destination path) = some text.toUTF8 ∧
      Passable tree.root (tree.start path) (Path.segments path) := by
  rw [readText, readBytes] at h
  cases hstat : tree.stat path with
  | error fault => simp [hstat] at h
  | ok entry =>
    obtain ⟨-, hpassable, hentry⟩ := stat_eq_ok_iff.1 hstat
    refine ⟨?_, hpassable⟩
    cases entry with
    | directory => simp [hstat] at h
    | file content isExecutable =>
      rw [hstat] at h
      dsimp only at h
      cases htext : String.fromUTF8? content with
      | none => simp [htext] at h
      | some own =>
        rw [htext] at h
        cases h
        rw [content?, hentry, ← bytes_of_its_text htext]
        rfl

/-- A path without names leads to a directory, if it can be walked. -/
theorem names_ne_nil_of_content {tree : FileTree} {place path : String} (hpath : Path.isContained path = true) (hplace : place ≠ "")
    (hpassable : Passable tree.root (tree.start (Path.below place path)) (Path.segments (Path.below place path)))
    (hcontent : (tree.content? (tree.destination (Path.below place path))).isSome = true) : Path.names [path] ≠ [] := by
  intro hnames
  obtain ⟨lead, hbelow, hlead⟩ := Path.segments_below place path hplace
  have hdirectory : ∃ entries, tree.root.find? (tree.destination place) = some (.directory entries) := by
    rw [hbelow, start_below tree hplace] at hpassable
    have hrest := (Passable.append_iff.1 hpassable).2
    rw [← destination_of_lead hlead] at hrest
    cases hsegments : Path.segments path with
    | nil => exact absurd hsegments (Path.segments_ne_nil path)
    | cons segment rest =>
      rw [hsegments] at hrest
      exact hrest.1
  obtain ⟨content, isExecutable, hfile⟩ := exists_file_of_content hcontent
  rw [destination_below tree place hpath, hnames, List.append_nil] at hfile
  obtain ⟨entries, hfound⟩ := hdirectory
  rw [hfound] at hfile
  cases hfile

end FileTree

end GuardedPlan
