import GuardedPlan.FileTree.Basic
import GuardedPlan.Proofs.FileTree.Node

/-!
# Walks as locations

A walk carries the names and the directories it has passed, so that it can climb back. Both are determined by the root and by the location it has reached: every step leads to the place that one gets by descending from the root to the next location. So a walk succeeds when the locations on its way are directories, and where it ends depends on the segments alone.
-/

namespace GuardedPlan.FileTree

/-- The place at a location below a root. -/
def spotAt (root : FileNode) (location : Location) : Spot :=
  (⟨[], [], some root⟩ : Spot).descend location

def step (location : Location) (segment : String) : Location :=
  if segment = "" ∨ segment = "." then location
  else if segment = ".." then location.dropLast
  else location ++ [segment]

/-- The locations on the way along segments are directories, and no segment is too long for a name. -/
def Passable (root : FileNode) : Location → List String → Prop
  | _, [] => True
  | location, segment :: rest =>
    (∃ entries, root.find? location = some (.directory entries)) ∧ segment.utf8ByteSize ≤ maxNameBytes ∧
      Passable root (step location segment) rest

/-! ### Descending -/

theorem Spot.descend_of_none {spot : Spot} (h : spot.here = none) (location : Location) :
    spot.descend location = ⟨location.reverse ++ spot.names, spot.passed, none⟩ := by
  obtain ⟨names, passed, here⟩ := spot
  cases h
  cases location <;> rfl

theorem Spot.descend_append (spot : Spot) (first second : Location) :
    spot.descend (first ++ second) = (spot.descend first).descend second := by
  induction first generalizing spot with
  | nil => rfl
  | cons name rest ih =>
    cases hhere : spot.here with
    | none =>
      rw [descend_of_none hhere, descend_of_none hhere, descend_of_none rfl]
      simp
    | some node =>
      rw [List.cons_append, descend, descend, hhere]
      exact ih _

theorem Spot.names_descend (spot : Spot) (location : Location) :
    (spot.descend location).names = location.reverse ++ spot.names := by
  induction location generalizing spot with
  | nil => rfl
  | cons name rest ih =>
    cases hhere : spot.here with
    | none => rw [descend_of_none hhere]
    | some node =>
      rw [descend, hhere]
      dsimp only
      rw [ih]
      simp

theorem Spot.here_descend (spot : Spot) (location : Location) :
    (spot.descend location).here = spot.here.bind fun node => node.find? location := by
  induction location generalizing spot with
  | nil =>
    cases hhere : spot.here with
    | none => exact hhere
    | some node => exact hhere
  | cons name rest ih =>
    cases hhere : spot.here with
    | none =>
      rw [descend_of_none hhere]
      rfl
    | some node =>
      rw [descend, hhere]
      dsimp only
      rw [ih]
      rfl

@[simp] theorem names_spotAt (root : FileNode) (location : Location) :
    (spotAt root location).names = location.reverse := by
  rw [spotAt, Spot.names_descend, List.append_nil]

@[simp] theorem here_spotAt (root : FileNode) (location : Location) :
    (spotAt root location).here = root.find? location :=
  Spot.here_descend _ _

theorem location_spotAt (root : FileNode) (location : Location) : (spotAt root location).location = location := by
  rw [Spot.location, names_spotAt, List.reverse_reverse]

theorem spotAt_concat {root node : FileNode} {location : Location} (h : root.find? location = some node)
    (name : String) : spotAt root (location ++ [name]) =
      ⟨name :: (spotAt root location).names, node :: (spotAt root location).passed, node.child? name⟩ := by
  have hhere : (spotAt root location).here = some node := by rw [here_spotAt, h]
  rw [spotAt, Spot.descend_append, ← spotAt, Spot.descend, hhere]
  rfl

/-! ### Steps and walks -/

/-- Climbing leads to the location above; at the root it leads nowhere. -/
theorem enter_parent {root : FileNode} {location : Location} {entries : List (String × FileNode)}
    (h : root.find? location = some (.directory entries)) :
    (spotAt root location).enter ".." = .ok (spotAt root location.dropLast) := by
  rcases List.eq_nil_or_concat location with rfl | ⟨above, name, rfl⟩
  · rw [Spot.enter, here_spotAt, h]
    rfl
  · rw [List.concat_eq_append] at h ⊢
    cases habove : root.find? above with
    | none =>
      rw [FileNode.find?_concat, habove] at h
      cases h
    | some node =>
      have hhere : (spotAt root (above ++ [name])).here = some (.directory entries) := by rw [here_spotAt, h]
      rw [Spot.enter, hhere, spotAt_concat habove, List.dropLast_concat]
      have hspot : spotAt root above = ⟨(spotAt root above).names, (spotAt root above).passed, some node⟩ := by
        rw [← habove, ← here_spotAt]
      exact congrArg Except.ok hspot.symm

/-- A step needs a directory to stand in and leads to the place at the next location. -/
theorem enter_eq_ok_iff {root : FileNode} {location : Location} {segment : String} {next : Spot} :
    (spotAt root location).enter segment = .ok next ↔
      (∃ entries, root.find? location = some (.directory entries)) ∧ segment.utf8ByteSize ≤ maxNameBytes ∧
        next = spotAt root (step location segment) := by
  cases hfound : root.find? location with
  | none => simp [Spot.enter, hfound]
  | some node =>
    cases node with
    | file content isExecutable => simp [Spot.enter, hfound]
    | directory entries =>
      have hsome : ∃ found, (some (FileNode.directory entries)) = some (.directory found) := ⟨entries, rfl⟩
      rw [and_iff_right hsome]
      by_cases hstay : segment = "" ∨ segment = "."
      · have hshort : segment.utf8ByteSize ≤ maxNameBytes := by
          rcases hstay with rfl | rfl <;> decide
        rw [and_iff_right hshort, Spot.enter, here_spotAt, hfound, step, if_pos hstay]
        simp [hstay, eq_comm]
      · by_cases hclimb : segment = ".."
        · subst segment
          have hshort : "..".utf8ByteSize ≤ maxNameBytes := by decide
          rw [and_iff_right hshort, enter_parent hfound, step, if_neg hstay, if_pos rfl]
          simp [eq_comm]
        · rw [Spot.enter, here_spotAt, hfound]
          dsimp only
          rw [if_neg hstay, if_neg hclimb, step, if_neg hstay, if_neg hclimb, spotAt_concat hfound]
          by_cases hlong : maxNameBytes < segment.utf8ByteSize
          · rw [if_pos hlong]
            simp [Nat.not_le.2 hlong]
          · rw [if_neg hlong, and_iff_right (Nat.not_lt.1 hlong)]
            simp [FileNode.child?, eq_comm]

theorem walk_eq_ok_iff {root : FileNode} {location : Location} {segments : List String} {spot : Spot} :
    (spotAt root location).walk segments = .ok spot ↔
      Passable root location segments ∧ spot = spotAt root (segments.foldl step location) := by
  induction segments generalizing location with
  | nil => simp [Spot.walk, Passable, eq_comm]
  | cons segment rest ih =>
    rw [Spot.walk, Passable, List.foldl_cons]
    cases hnext : (spotAt root location).enter segment with
    | error fault =>
      simp only [reduceCtorEq, false_iff, not_and]
      rintro ⟨hdirectory, hshort, _⟩
      have hok := enter_eq_ok_iff.2 ⟨hdirectory, hshort, rfl⟩
      rw [hnext] at hok
      cases hok
    | ok next =>
      obtain ⟨hdirectory, hshort, rfl⟩ := enter_eq_ok_iff.1 hnext
      dsimp only
      rw [ih, and_iff_right hdirectory, and_iff_right hshort]

theorem Passable.append_iff {root : FileNode} {location : Location} {first second : List String} :
    Passable root location (first ++ second) ↔
      Passable root location first ∧ Passable root (first.foldl step location) second := by
  induction first generalizing location with
  | nil => simp [Passable]
  | cons segment rest ih =>
    rw [List.cons_append, Passable, Passable, List.foldl_cons, ih]
    simp only [and_assoc]

/-- What can be walked can still be walked where every directory is still a directory. -/
theorem Passable.mono {root changed : FileNode}
    (hkept : ∀ place entries, root.find? place = some (.directory entries) →
      ∃ entries, changed.find? place = some (.directory entries))
    {location : Location} {segments : List String} (h : Passable root location segments) :
    Passable changed location segments := by
  induction segments generalizing location with
  | nil => trivial
  | cons segment rest ih =>
    obtain ⟨⟨entries, hentries⟩, hshort, hrest⟩ := h
    exact ⟨hkept location entries hentries, hshort, ih hrest⟩

/-! ### Paths -/

def start (tree : FileTree) (path : String) : Location :=
  if path.toList.head? = some '/' then [] else tree.current

/-- The location that a path leads to, wherever it can be walked. -/
def destination (tree : FileTree) (path : String) : Location :=
  (Path.segments path).foldl step (tree.start path)

theorem origin_eq (tree : FileTree) (path : String) : tree.origin path = spotAt tree.root (tree.start path) := by
  rw [origin, start]
  split <;> rfl

theorem spot_eq_ok_iff {tree : FileTree} {path : String} {spot : Spot} :
    tree.spot path = .ok spot ↔ pathFault? path = none ∧ Passable tree.root (tree.start path) (Path.segments path) ∧
      spot = spotAt tree.root (tree.destination path) := by
  rw [FileTree.spot, origin_eq]
  cases hfault : pathFault? path with
  | some fault => simp
  | none =>
    simp only [true_and]
    exact walk_eq_ok_iff

theorem node_eq_ok_iff {tree : FileTree} {path : String} {node : FileNode} :
    tree.node path = .ok node ↔ pathFault? path = none ∧ Passable tree.root (tree.start path) (Path.segments path) ∧
      tree.root.find? (tree.destination path) = some node := by
  rw [FileTree.node]
  cases hspot : tree.spot path with
  | error fault =>
    simp only [reduceCtorEq, false_iff, not_and]
    intro hfault hpassable _
    have hok := spot_eq_ok_iff.2 ⟨hfault, hpassable, rfl⟩
    rw [hspot] at hok
    cases hok
  | ok spot =>
    obtain ⟨hfault, hpassable, rfl⟩ := spot_eq_ok_iff.1 hspot
    dsimp only
    rw [and_iff_right hfault, and_iff_right hpassable, here_spotAt]
    cases tree.root.find? (tree.destination path) <;> simp

end GuardedPlan.FileTree
