import GuardedPlan.Execution.Operation
import GuardedPlan.Proofs.FileTree.Writing
import GuardedPlan.Proofs.Path.Contained

/-!
# What writing leaves alone

Making directories and writing a file are the only changes that an operation makes to a tree by itself. Both put a node without anything in it where no directory stands, which is seen at no other location. So after a file was written, whether or not that succeeded, everything but the file is as it was, apart from directories that were missing.
-/

namespace GuardedPlan

namespace FileNode

variable {root new : FileNode} {location place : Location}

theorem find?_of_childless (hnew : ∀ name, new.child? name = none) (hplace : place ≠ []) : new.find? place = none := by
  cases place with
  | nil => exact absurd rfl hplace
  | cons name rest => rw [find?, hnew, Option.bind_none]

/-- A node with nothing in it, put where no directory stands, is seen at no other location. -/
theorem entry_put_of_ne (hnew : ∀ name, new.child? name = none)
    (hlocation : ∀ entries, root.find? location ≠ some (.directory entries)) (hplace : place ≠ location) :
    ((root.put new location).find? place).map entry = (root.find? place).map entry := by
  induction location generalizing root place with
  | nil =>
    cases root with
    | directory top => exact absurd rfl (hlocation top)
    | file content isExecutable =>
      have hnone : (file content isExecutable).find? place = none := find?_of_childless (fun _ => rfl) hplace
      rw [put_nil, hnone, find?_of_childless hnew hplace]
  | cons name rest ih =>
    cases root with
    | file content isExecutable => rfl
    | directory top =>
      cases hchild : top.lookup name with
      | none =>
        cases rest with
        | cons next more => rw [put_of_missing hchild]
        | nil =>
          rw [put_singleton]
          cases place with
          | nil => rfl
          | cons key others =>
            by_cases hkey : key = name
            · subst key
              have hothers : others ≠ [] := fun h => hplace (by rw [h])
              rw [find?_putEntry_self, find?_of_childless hnew hothers, find?_directory_cons, hchild, Option.bind_none]
            · rw [find?_putEntry_of_ne hkey]
      | some child =>
        rw [put_of_child hchild]
        have hbelow : ∀ place, (directory top).find? (name :: place) = child.find? place := by
          intro place
          rw [find?_directory_cons, hchild, Option.bind_some]
        cases place with
        | nil => rfl
        | cons key others =>
          by_cases hkey : key = name
          · subst key
            rw [find?_putEntry_self, hbelow]
            exact ih (fun inner hinner => hlocation inner ((hbelow rest).trans hinner)) fun h => hplace (by rw [h])
          · rw [find?_putEntry_of_ne hkey]

/-- A node that is put somewhere stands there, unless nothing changes there. -/
theorem find?_put_self_or (root new : FileNode) (location : Location) :
    (root.put new location).find? location = some new ∨
      (root.put new location).find? location = root.find? location := by
  induction location generalizing root with
  | nil =>
    rw [put_nil]
    exact .inl rfl
  | cons name rest ih =>
    cases root with
    | file content isExecutable => exact .inr rfl
    | directory top =>
      cases hchild : top.lookup name with
      | none =>
        cases rest with
        | cons next more =>
          rw [put_of_missing hchild]
          exact .inr rfl
        | nil =>
          rw [put_singleton, find?_putEntry_self]
          exact .inl rfl
      | some child =>
        rw [put_of_child hchild, find?_putEntry_self, find?_directory_cons, hchild, Option.bind_some]
        exact ih child

end FileNode

namespace FileTree

theorem start_congr {first second : FileTree} (h : first.current = second.current) (path : String) :
    first.start path = second.start path := by
  rw [start, start, h]

theorem destination_congr {first second : FileTree} (h : first.current = second.current) (path : String) :
    first.destination path = second.destination path := by
  rw [destination, destination, start_congr h]

/-- Between two trees nothing changed but what stands at some locations, apart from directories that were made where nothing stood. -/
structure ChangesOnly (before after : FileTree) (written : List Location) : Prop where
  current : after.current = before.current
  kept : ∀ place, place ∉ written → after.entry? place = before.entry? place ∨
    (before.entry? place = none ∧ after.entry? place = some .directory)

namespace ChangesOnly

theorem refl (tree : FileTree) (written : List Location) : tree.ChangesOnly tree written :=
  ⟨rfl, fun _ _ => .inl rfl⟩

theorem trans {before middle after : FileTree} {written : List Location} (hfirst : before.ChangesOnly middle written)
    (hsecond : middle.ChangesOnly after written) : before.ChangesOnly after written := by
  refine ⟨hsecond.current.trans hfirst.current, fun place hplace => ?_⟩
  rcases hsecond.kept place hplace with hsame | ⟨hmissing, hmade⟩
  · rw [hsame]
    exact hfirst.kept place hplace
  · rcases hfirst.kept place hplace with hsame | ⟨-, hbefore⟩
    · exact .inr ⟨hsame.symm.trans hmissing, hmade⟩
    · rw [hmissing] at hbefore
      cases hbefore

theorem mono {before after : FileTree} {written more : List Location} (h : before.ChangesOnly after written)
    (hmore : written ⊆ more) : before.ChangesOnly after more :=
  ⟨h.current, fun place hplace => h.kept place fun hmem => hplace (hmore hmem)⟩

theorem destination {before after : FileTree} {written : List Location} (h : before.ChangesOnly after written)
    (path : String) : after.destination path = before.destination path :=
  destination_congr h.current path

end ChangesOnly

/-! ### Making directories -/

/-- Between two trees nothing changed but that directories were made along a way, where nothing stood. -/
structure MakesAlong (before after : FileTree) (start : Location) (way : List String) : Prop where
  current : after.current = before.current
  made : ∀ place, after.entry? place = before.entry? place ∨
    (before.entry? place = none ∧ after.entry? place = some .directory ∧
      ∃ passed, passed <+: way ∧ place = passed.foldl step start)

namespace MakesAlong

variable {before middle after : FileTree} {start : Location} {way : List String}

theorem refl (tree : FileTree) (start : Location) (way : List String) : tree.MakesAlong tree start way :=
  ⟨rfl, fun _ => .inl rfl⟩

theorem trans (hfirst : before.MakesAlong middle start way) (hsecond : middle.MakesAlong after start way) :
    before.MakesAlong after start way := by
  refine ⟨hsecond.current.trans hfirst.current, fun place => ?_⟩
  rcases hsecond.made place with hsame | ⟨hmissing, hmade, hway⟩
  · rw [hsame]
    exact hfirst.made place
  · rcases hfirst.made place with hsame | ⟨-, hdirectory, -⟩
    · exact .inr ⟨hsame.symm.trans hmissing, hmade, hway⟩
    · rw [hmissing] at hdirectory
      cases hdirectory

theorem mono {longer : List String} (h : before.MakesAlong after start way) (hway : way <+: longer) :
    before.MakesAlong after start longer := by
  refine ⟨h.current, fun place => ?_⟩
  rcases h.made place with hsame | ⟨hmissing, hmade, passed, hpassed, hplace⟩
  · exact .inl hsame
  · exact .inr ⟨hmissing, hmade, passed, hpassed.trans hway, hplace⟩

theorem changesOnly (h : before.MakesAlong after start way) : before.ChangesOnly after [] := by
  refine ⟨h.current, fun place _ => ?_⟩
  rcases h.made place with hsame | ⟨hmissing, hmade, -⟩
  · exact .inl hsame
  · exact .inr ⟨hmissing, hmade⟩

end MakesAlong

/-- A directory is made at the end of its segments, where nothing stood. -/
theorem makeDirectory_eq_ok {tree made : FileTree} {path : String} {segments : List String}
    (h : tree.makeDirectory (fun tree => tree.origin path) segments = .ok made) :
    tree.root.find? (segments.reverse.foldl step (tree.start path)) = none ∧
      made = tree.put (segments.reverse.foldl step (tree.start path)) .empty := by
  rw [makeDirectory, origin_eq] at h
  cases hwalk : (spotAt tree.root (tree.start path)).walk segments.reverse with
  | error fault => simp [hwalk] at h
  | ok spot =>
    obtain ⟨-, rfl⟩ := walk_eq_ok_iff.1 hwalk
    rw [hwalk] at h
    generalize segments.reverse.foldl step (tree.start path) = location at h ⊢
    simp only [here_spotAt, location_spotAt] at h
    cases hfound : tree.root.find? location with
    | some node => simp [hfound] at h
    | none =>
      rw [hfound] at h
      dsimp only at h
      split at h
      · cases h
      · cases h
        exact ⟨rfl, rfl⟩

theorem makesAlong_makeDirectory {tree made : FileTree} {path : String} {segments : List String}
    (h : tree.makeDirectory (fun tree => tree.origin path) segments = .ok made) :
    tree.MakesAlong made (tree.start path) segments.reverse := by
  obtain ⟨hfound, rfl⟩ := makeDirectory_eq_ok h
  refine ⟨rfl, fun place => ?_⟩
  by_cases hplace : place = segments.reverse.foldl step (tree.start path)
  · subst hplace
    rcases FileNode.find?_put_self_or tree.root .empty (segments.reverse.foldl step (tree.start path)) with hput | hput
    · exact .inr ⟨congrArg (Option.map FileNode.entry) hfound, congrArg (Option.map FileNode.entry) hput, _,
        List.prefix_rfl, rfl⟩
    · exact .inl (congrArg (Option.map FileNode.entry) hput)
  · have hundirected : ∀ entries, tree.root.find? (segments.reverse.foldl step (tree.start path)) ≠
        some (.directory entries) := by
      intro entries hdirectory
      rw [hfound] at hdirectory
      cases hdirectory
    exact .inl (FileNode.entry_put_of_ne (fun _ => rfl) hundirected hplace)

theorem makesAlong_makeAll (path : String) (segments : List String) (tree : FileTree) :
    tree.MakesAlong (makeAll (fun tree => tree.origin path) segments tree).2 (tree.start path) segments.reverse := by
  induction segments generalizing tree with
  | nil => exact .refl tree _ _
  | cons segment above ih =>
    have hprefix : above.reverse <+: (segment :: above).reverse := by
      rw [List.reverse_cons]
      exact List.prefix_append _ _
    rw [makeAll]
    dsimp only
    split
    next made hmade => exact makesAlong_makeDirectory hmade
    next =>
      have habove := (ih tree).mono hprefix
      cases hrest : makeAll (fun tree => tree.origin path) above tree with
      | mk result middle =>
        rw [hrest] at habove
        cases result with
        | error fault => exact habove
        | ok done =>
          dsimp only
          split
          next made hmade =>
            have hstart := start_congr habove.current path
            have hlast := makesAlong_makeDirectory hmade
            rw [hstart] at hlast
            exact habove.trans hlast
          next => split <;> exact habove
    next => split <;> exact .refl tree _ _

theorem makesAlong_makeDirectories (tree : FileTree) (path : String) :
    tree.MakesAlong (tree.makeDirectories path).2 (tree.start path) (Path.segments path) := by
  rw [makeDirectories]
  split
  · exact .refl tree _ _
  · split
    · exact .refl tree _ _
    · refine (makesAlong_makeAll path _ tree).mono ?_
      rw [← List.reverse_suffix, List.reverse_reverse]
      exact List.dropWhile_suffix _

/-! ### Writing files -/

/-- A file that is put where a path was opened is the one thing that changes. -/
theorem changesOnly_putFile {tree : FileTree} {path : String} {location : Location} {before : ByteArray}
    (h : tree.openForWriting path = .ok (location, before)) (content : ByteArray) :
    tree.ChangesOnly (tree.putFile location content) [tree.destination path] := by
  obtain ⟨rfl, ⟨above, last, hopens⟩, -⟩ := openForWriting_eq_ok h
  obtain ⟨isExecutable, hput⟩ := putFile_eq tree (tree.destination path) content
  rw [hput]
  refine ⟨rfl, fun place hplace => .inl ?_⟩
  exact FileNode.entry_put_of_ne (fun _ => rfl) hopens.undirected (List.ne_of_not_mem_cons hplace)

/-! ### Below a directory -/

/-- Preparing a path below a directory makes directories along that path. -/
theorem makesAlong_prepare (tree : FileTree) (directory path : String) :
    tree.MakesAlong (tree.prepare directory path).2 (tree.start (Path.below directory path))
      (Path.segments (Path.below directory path)) := by
  rw [prepare]
  split
  · split
    · exact .refl tree _ _
    next parent hparent =>
      have hmade : tree.MakesAlong (tree.makeDirectories parent).2 (tree.start (Path.below directory path))
          (Path.segments (Path.below directory path)) := by
        generalize Path.below directory path = place at hparent ⊢
        rcases Path.parent?_cases hparent with rfl | rfl | ⟨rest, hrest⟩
        · exact .refl tree _ _
        · exact .refl tree _ _
        · by_cases hempty : parent = ""
          · subst hempty
            exact .refl tree _ _
          · have hstart : tree.start place = tree.start parent := by
              have hsome : parent.toList ≠ [] := fun h => hempty (String.toList_eq_nil_iff.1 h)
              rw [start, start, hrest, List.head?_append, List.head?_eq_some_head hsome, Option.some_or]
            have hway : Path.segments parent <+: Path.segments place := by
              rw [← String.ofList_toList (s := place), hrest, Path.segments_append_slash, String.ofList_toList]
              exact List.prefix_append _ _
            rw [hstart]
            exact (tree.makesAlong_makeDirectories parent).mono hway
      generalize tree.makeDirectories parent = outcome at hmade ⊢
      obtain ⟨fault | done, made⟩ := outcome
      · exact hmade
      · exact hmade
  · exact .refl tree _ _

theorem changesOnly_prepare (tree : FileTree) (directory path : String) :
    tree.ChangesOnly (tree.prepare directory path).2 [] :=
  (tree.makesAlong_prepare directory path).changesOnly

/-- What putting a file below a directory comes to: its directory is prepared, and if nothing fails then the file is opened there and put, with bytes that may depend on what it held. -/
inductive PutsBelow (tree : FileTree) (directory path : String) (bytes : ByteArray → ByteArray) :
    Except OpFault Unit × FileTree → Prop
  | failed (fault : OpFault) : PutsBelow tree directory path bytes (.error fault, (tree.prepare directory path).2)
  | put {prepared : FileTree} {location : Location} {before : ByteArray}
      (hprepare : tree.prepare directory path = (.ok (), prepared))
      (hopen : prepared.openForWriting (Path.below directory path) = .ok (location, before)) :
      PutsBelow tree directory path bytes (.ok (), prepared.putFile location (bytes before))

theorem putsBelow_writeBelow (tree : FileTree) (directory path content : String) :
    tree.PutsBelow directory path (fun _ => content.toUTF8) (tree.writeBelow directory path content) := by
  have hfailed := @PutsBelow.failed tree directory path fun _ => content.toUTF8
  rw [writeBelow]
  cases hprepare : tree.prepare directory path with
  | mk result prepared =>
    rw [hprepare] at hfailed
    cases result with
    | error fault => exact hfailed fault
    | ok done =>
      dsimp only
      cases hwrite : prepared.write (Path.below directory path) content.toUTF8 with
      | error fault => exact hfailed _
      | ok written =>
        obtain ⟨⟨location, before⟩, hopen, rfl⟩ := Except.map_eq_ok_iff.1 hwrite
        exact .put hprepare hopen

theorem putsBelow_appendBelow (tree : FileTree) (directory path content : String) :
    tree.PutsBelow directory path (· ++ content.toUTF8) (tree.appendBelow directory path content) := by
  have hfailed := @PutsBelow.failed tree directory path (· ++ content.toUTF8)
  rw [appendBelow]
  cases hprepare : tree.prepare directory path with
  | mk result prepared =>
    rw [hprepare] at hfailed
    cases result with
    | error fault => exact hfailed fault
    | ok done =>
      dsimp only
      cases hwrite : prepared.append (Path.below directory path) content.toUTF8 with
      | error fault => exact hfailed _
      | ok written =>
        obtain ⟨⟨location, before⟩, hopen, rfl⟩ := Except.map_eq_ok_iff.1 hwrite
        exact .put hprepare hopen

/-- What a path below a directory leads to is the one thing that changes when a file is put there. -/
theorem PutsBelow.changesOnly {tree : FileTree} {directory path : String} {bytes : ByteArray → ByteArray}
    {outcome : Except OpFault Unit × FileTree} (h : tree.PutsBelow directory path bytes outcome) :
    tree.ChangesOnly outcome.2 [tree.destination (Path.below directory path)] := by
  have hprepared := tree.changesOnly_prepare directory path
  cases h with
  | failed fault => exact hprepared.mono (List.nil_subset _)
  | @put prepared location before hprepare hopen =>
    rw [hprepare] at hprepared
    have hput := changesOnly_putFile hopen (bytes before)
    rw [hprepared.destination] at hput
    exact (hprepared.mono (List.nil_subset _)).trans hput

end FileTree

end GuardedPlan
