import GuardedPlan.Proofs.FileTree.Changes

/-!
# Staying below a directory

Where a path leads is a matter of its segments alone: dots and empty segments stay, names go down and climbing goes up. A contained path has nothing that climbs, so below a directory it leads to a place in that directory. Writing there changes nothing elsewhere as long as the directory exists, and what is read there does not depend on anything elsewhere.
-/

namespace GuardedPlan.FileTree

/-! ### Where contained paths lead -/

theorem foldl_step_of_not_climb {segments : List String} (h : ".." ∉ segments) (location : Location) :
    segments.foldl step location = location ++ segments.filter Path.isName := by
  induction segments generalizing location with
  | nil => simp
  | cons segment rest ih =>
    have hclimb : segment ≠ ".." := fun hsame => h (hsame ▸ List.mem_cons_self)
    have hrest : ".." ∉ rest := List.not_mem_of_not_mem_cons h
    rw [List.foldl_cons, ih hrest]
    by_cases hstay : segment = "" ∨ segment = "."
    · have hname : Path.isName segment = false := by
        rcases hstay with rfl | rfl <;> decide
      rw [step, if_pos hstay, List.filter_cons_of_neg (by simp [hname])]
    · have hname : Path.isName segment = true := by
        rw [not_or] at hstay
        simp [Path.isName, hstay]
      rw [step, if_neg hstay, if_neg hclimb, List.filter_cons_of_pos hname, List.append_assoc, List.singleton_append]

theorem start_below (tree : FileTree) {directory : String} (h : directory ≠ "") (path : String) :
    tree.start (Path.below directory path) = tree.start directory := by
  rw [start, start, Path.head_below directory path h]

theorem destination_of_lead {tree : FileTree} {directory : String} {lead : List String}
    (h : Path.segments directory = lead ∨ Path.segments directory = lead ++ [""]) :
    tree.destination directory = lead.foldl step (tree.start directory) := by
  rw [destination]
  rcases h with hsame | hempty
  · rw [hsame]
  · rw [hempty, List.foldl_append, List.foldl_cons, List.foldl_nil, step, if_pos (.inl rfl)]

/-- A contained path leads down along its names. -/
theorem destination_of_isContained (tree : FileTree) {path : String} (h : Path.isContained path = true) :
    tree.destination path = tree.current ++ Path.names [path] := by
  have hstart : tree.start path = tree.current := by rw [start, if_neg (Path.head_ne_slash h)]
  rw [destination, hstart, foldl_step_of_not_climb (Path.climb_not_mem_segments h), Path.names_eq]

/-- Below a directory, a contained path leads from where the directory is down along the names of the path. -/
theorem destination_below (tree : FileTree) (directory : String) {path : String} (h : Path.isContained path = true) :
    tree.destination (Path.below directory path) = tree.destination directory ++ Path.names [path] := by
  by_cases hempty : directory = ""
  · subst hempty
    have hstay : tree.destination "" = tree.current := by rfl
    have hbelow : Path.below "" path = path := by rw [Path.below, if_pos rfl]
    rw [hbelow, hstay, destination_of_isContained tree h]
  · obtain ⟨lead, hbelow, hdirectory⟩ := Path.segments_below directory path hempty
    rw [destination_of_lead hdirectory, destination, start_below tree hempty, hbelow, List.foldl_append,
      foldl_step_of_not_climb (Path.climb_not_mem_segments h), Path.names_eq]

/-! ### Directories that exist -/

theorem stat_eq_ok_iff {tree : FileTree} {path : String} {entry : FileEntry} :
    tree.stat path = .ok entry ↔ pathFault? path = none ∧ Passable tree.root (tree.start path) (Path.segments path) ∧
      tree.entry? (tree.destination path) = some entry := by
  rw [stat, Except.map_eq_ok_iff]
  simp only [node_eq_ok_iff, entry?, Option.map_eq_some_iff]
  constructor
  · rintro ⟨node, ⟨hfault, hpassable, hfound⟩, hentry⟩
    exact ⟨hfault, hpassable, node, hfound, hentry⟩
  · rintro ⟨hfault, hpassable, node, hfound, hentry⟩
    exact ⟨node, ⟨hfault, hpassable, hfound⟩, hentry⟩

theorem entry_eq_directory_iff {tree : FileTree} {place : Location} :
    tree.entry? place = some .directory ↔ ∃ entries, tree.root.find? place = some (.directory entries) := by
  unfold entry?
  cases tree.root.find? place with
  | none => simp
  | some node => cases node <;> simp [FileNode.entry]

theorem isDirectory_iff {tree : FileTree} {path : String} :
    tree.isDirectory path = true ↔ pathFault? path = none ∧ Passable tree.root (tree.start path) (Path.segments path) ∧
      ∃ entries, tree.root.find? (tree.destination path) = some (.directory entries) := by
  have hstat : tree.isDirectory path = true ↔ tree.stat path = .ok .directory := by
    rw [isDirectory]
    split <;> simp_all
  rw [hstat, stat_eq_ok_iff, entry_eq_directory_iff]

theorem ne_empty_of_isDirectory {tree : FileTree} {path : String} (h : tree.isDirectory path = true) : path ≠ "" := by
  rintro rfl
  have hfault := (isDirectory_iff.1 h).1
  cases hfault

/-- Directories that stay are found again. -/
theorem exists_directory_of_kept {before after : FileTree}
    (h : ∀ place, before.entry? place = some .directory → after.entry? place = some .directory) (place : Location)
    (entries : List (String × FileNode)) (hplace : before.root.find? place = some (.directory entries)) :
    ∃ entries, after.root.find? place = some (.directory entries) :=
  entry_eq_directory_iff.1 (h place (entry_eq_directory_iff.2 ⟨entries, hplace⟩))

theorem Passable.directory_of_prefix {root : FileNode} {location : Location} {segments passed : List String}
    (h : Passable root location segments) (hpassed : passed <+: segments) (hproper : passed ≠ segments) :
    ∃ entries, root.find? (passed.foldl step location) = some (.directory entries) := by
  obtain ⟨rest, rfl⟩ := hpassed
  cases rest with
  | nil => exact absurd (List.append_nil passed).symm hproper
  | cons segment others => exact (Passable.append_iff.1 h).2.1

/-- On the way to a directory that exists there are only directories. -/
theorem directory_of_prefix {tree : FileTree} {directory : String} (h : tree.isDirectory directory = true)
    {lead passed : List String} (hlead : Path.segments directory = lead ∨ Path.segments directory = lead ++ [""])
    (hpassed : passed <+: lead) : tree.entry? (passed.foldl step (tree.start directory)) = some .directory := by
  obtain ⟨-, hpassable, entries, hfound⟩ := isDirectory_iff.1 h
  rw [entry_eq_directory_iff]
  by_cases hwhole : passed = Path.segments directory
  · exact ⟨entries, by rw [hwhole]; exact hfound⟩
  · refine hpassable.directory_of_prefix ?_ hwhole
    rcases hlead with hsame | hempty
    · rw [hsame]
      exact hpassed
    · rw [hempty]
      exact hpassed.trans (List.prefix_append _ _)

/-! ### Changes in a directory -/

/-- Between two trees nothing changed but at or below a location, and no directory was lost. -/
structure Confined (base : Location) (before after : FileTree) : Prop where
  current : after.current = before.current
  outside : ∀ place, ¬ base <+: place → after.entry? place = before.entry? place
  directories : ∀ place, before.entry? place = some .directory → after.entry? place = some .directory

namespace Confined

variable {base : Location} {before middle after : FileTree}

theorem refl (base : Location) (tree : FileTree) : Confined base tree tree :=
  ⟨rfl, fun _ _ => rfl, fun _ h => h⟩

theorem trans (hfirst : Confined base before middle) (hsecond : Confined base middle after) :
    Confined base before after where
  current := hsecond.current.trans hfirst.current
  outside place hplace := (hsecond.outside place hplace).trans (hfirst.outside place hplace)
  directories place hplace := hsecond.directories place (hfirst.directories place hplace)

theorem isDirectory (h : Confined base before after) {path : String} (hpath : before.isDirectory path = true) :
    after.isDirectory path = true := by
  obtain ⟨hfault, hpassable, hfound⟩ := isDirectory_iff.1 hpath
  have hkept := exists_directory_of_kept h.directories
  obtain ⟨entries, hplace⟩ := hfound
  refine isDirectory_iff.2 ⟨hfault, ?_, ?_⟩
  · rw [start_congr h.current]
    exact hpassable.mono hkept
  · rw [destination_congr h.current]
    exact hkept _ entries hplace

end Confined

/-- Directories made along a contained path are made in the directory, which exists already. -/
theorem MakesAlong.confined {before after : FileTree} {directory path : String}
    (h : before.MakesAlong after (before.start (Path.below directory path)) (Path.segments (Path.below directory path)))
    (hdirectory : before.isDirectory directory = true) (hpath : Path.isContained path = true) :
    Confined (before.destination directory) before after := by
  have hempty := ne_empty_of_isDirectory hdirectory
  obtain ⟨lead, hbelow, hlead⟩ := Path.segments_below directory path hempty
  refine ⟨h.current, fun place hplace => ?_, fun place hplace => ?_⟩
  · rcases h.made place with hsame | ⟨hmissing, -, passed, hpassed, rfl⟩
    · exact hsame
    · exfalso
      rw [start_below before hempty] at hmissing hplace
      rw [hbelow] at hpassed
      rcases List.prefix_or_prefix_of_prefix hpassed (List.prefix_append lead (Path.segments path)) with hway | hway
      · -- on the way to the directory something stands everywhere
        have hstands := directory_of_prefix hdirectory hlead hway
        rw [hmissing] at hstands
        cases hstands
      · obtain ⟨more, rfl⟩ := hway
        have hmore : more <+: Path.segments path := (List.prefix_append_right_inj lead).1 hpassed
        have hclimb : ".." ∉ more := fun hmem => Path.climb_not_mem_segments hpath (hmore.subset hmem)
        apply hplace
        rw [destination_of_lead hlead, List.foldl_append, foldl_step_of_not_climb hclimb]
        exact List.prefix_append _ _
  · rcases h.made place with hsame | ⟨hmissing, -, -⟩
    · rw [hsame, hplace]
    · rw [hplace] at hmissing
      cases hmissing

theorem confined_prepare {tree : FileTree} {directory : String} (hdirectory : tree.isDirectory directory = true)
    (path : String) : Confined (tree.destination directory) tree (tree.prepare directory path).2 := by
  by_cases hpath : Path.isContained path = true
  · exact (tree.makesAlong_prepare directory path).confined hdirectory hpath
  · rw [prepare, if_neg hpath]
    exact .refl _ tree

/-- A file put where a path was opened takes the place of no directory. -/
theorem confined_putFile {tree : FileTree} {path : String} {base location : Location} {before : ByteArray}
    (h : tree.openForWriting path = .ok (location, before)) (hbase : base <+: tree.destination path)
    (content : ByteArray) : Confined base tree (tree.putFile location content) := by
  have hchanges := changesOnly_putFile h content
  obtain ⟨rfl, ⟨above, last, hopens⟩, -⟩ := openForWriting_eq_ok h
  obtain ⟨isExecutable, hput⟩ := putFile_eq tree (tree.destination path) content
  refine ⟨hchanges.current, fun place hplace => ?_, fun place hplace => ?_⟩
  · rw [hput]
    exact FileNode.entry_put_of_ne (fun _ => rfl) hopens.undirected fun hsame => hplace (hsame ▸ hbase)
  · obtain ⟨entries, hfound⟩ := entry_eq_directory_iff.1 hplace
    rw [hput, entry_eq_directory_iff]
    exact FileNode.find?_put_directory hopens.undirected hfound

theorem isContained_of_prepare {tree prepared : FileTree} {directory path : String}
    (h : tree.prepare directory path = (.ok (), prepared)) : Path.isContained path = true := by
  by_cases hpath : Path.isContained path = true
  · exact hpath
  · rw [prepare, if_neg hpath] at h
    cases h

/-- A file that is put below a directory is put in that directory. -/
theorem PutsBelow.confined {tree : FileTree} {directory path : String} {bytes : ByteArray → ByteArray}
    {outcome : Except OpFault Unit × FileTree} (h : tree.PutsBelow directory path bytes outcome)
    (hdirectory : tree.isDirectory directory = true) : Confined (tree.destination directory) tree outcome.2 := by
  have hprepared := confined_prepare hdirectory path
  cases h with
  | failed fault => exact hprepared
  | @put prepared location before hprepare hopen =>
    rw [hprepare] at hprepared
    have hbase : tree.destination directory <+: prepared.destination (Path.below directory path) := by
      rw [destination_congr hprepared.current, destination_below tree directory (isContained_of_prepare hprepare)]
      exact List.prefix_append _ _
    exact hprepared.trans (confined_putFile hopen hbase (bytes before))

theorem PutsBelow.isContained {tree written : FileTree} {directory path : String} {bytes : ByteArray → ByteArray}
    (h : tree.PutsBelow directory path bytes (.ok (), written)) : Path.isContained path = true := by
  cases h with
  | put hprepare _ => exact isContained_of_prepare hprepare

end GuardedPlan.FileTree
