import GuardedPlan.FileTree.Node

/-!
# Putting nodes into a tree

What stands at a location after another node was put somewhere: the new node at its own location, and at every location of a directory still a directory, unless it was a directory that was replaced.
-/

namespace GuardedPlan.FileNode

theorem lookup_putEntry_self (name : String) (node : FileNode) (entries : List (String × FileNode)) :
    (putEntry name node entries).lookup name = some node := by
  induction entries with
  | nil => simp [putEntry]
  | cons entry rest ih =>
    obtain ⟨other, kept⟩ := entry
    rw [putEntry]
    by_cases hname : other = name
    · rw [if_pos hname, List.lookup_cons_self]
    · rw [if_neg hname, List.lookup_cons, beq_false_of_ne (Ne.symm hname)]
      exact ih

theorem lookup_putEntry_of_ne {name key : String} (h : key ≠ name) (node : FileNode)
    (entries : List (String × FileNode)) : (putEntry name node entries).lookup key = entries.lookup key := by
  induction entries with
  | nil => rw [putEntry, List.lookup_cons, beq_false_of_ne h]
  | cons entry rest ih =>
    obtain ⟨other, kept⟩ := entry
    rw [putEntry]
    by_cases hname : other = name
    · subst other
      rw [if_pos rfl, List.lookup_cons, List.lookup_cons, beq_false_of_ne h]
    · rw [if_neg hname, List.lookup_cons, List.lookup_cons, ih]

theorem find?_append (node : FileNode) (first second : Location) :
    node.find? (first ++ second) = (node.find? first).bind fun found => found.find? second := by
  induction first generalizing node with
  | nil => rfl
  | cons name rest ih =>
    rw [List.cons_append, find?, find?]
    cases node.child? name with
    | none => rfl
    | some child => exact ih child

theorem find?_concat (node : FileNode) (location : Location) (name : String) :
    node.find? (location ++ [name]) = (node.find? location).bind fun found => found.child? name := by
  rw [find?_append]
  refine congrArg _ (funext fun found => ?_)
  rw [find?]
  cases found.child? name <;> rfl

/-! ### One step of putting -/

theorem put_nil (node new : FileNode) : node.put new [] = new := by
  rw [put.eq_def]

theorem put_of_child {entries : List (String × FileNode)} {name : String} {child : FileNode}
    (h : entries.lookup name = some child) (new : FileNode) (rest : Location) :
    (directory entries).put new (name :: rest) = directory (putEntry name (child.put new rest) entries) := by
  conv => lhs; rw [put.eq_def]
  simp only [h]

theorem put_singleton (entries : List (String × FileNode)) (name : String) (new : FileNode) :
    (directory entries).put new [name] = directory (putEntry name new entries) := by
  cases hchild : entries.lookup name with
  | none =>
    rw [put.eq_def]
    simp only [hchild]
  | some child => rw [put_of_child hchild, put_nil]

theorem put_of_missing {entries : List (String × FileNode)} {name : String} (h : entries.lookup name = none)
    (new : FileNode) (next : String) (more : Location) :
    (directory entries).put new (name :: next :: more) = directory entries := by
  rw [put.eq_def]
  simp only [h]

/-! ### What stands where -/

theorem find?_directory_cons (entries : List (String × FileNode)) (name : String) (rest : Location) :
    (directory entries).find? (name :: rest) = (entries.lookup name).bind fun child => child.find? rest := by
  rw [find?, child?]

theorem find?_putEntry_self (name : String) (node : FileNode) (entries : List (String × FileNode)) (rest : Location) :
    (directory (putEntry name node entries)).find? (name :: rest) = node.find? rest := by
  rw [find?_directory_cons, lookup_putEntry_self, Option.bind_some]

theorem find?_putEntry_of_ne {name key : String} (h : key ≠ name) (node : FileNode)
    (entries : List (String × FileNode)) (rest : Location) :
    (directory (putEntry name node entries)).find? (key :: rest) = (directory entries).find? (key :: rest) := by
  rw [find?_directory_cons, find?_directory_cons, lookup_putEntry_of_ne h]

/-- A node stands where it was put, if there was a directory to put it in. -/
theorem find?_put_self {root new : FileNode} {parent : Location} {name : String} {entries : List (String × FileNode)}
    (h : root.find? parent = some (.directory entries)) :
    (root.put new (parent ++ [name])).find? (parent ++ [name]) = some new := by
  induction parent generalizing root with
  | nil =>
    cases h
    rw [List.nil_append, put_singleton, find?_putEntry_self, find?]
  | cons step rest ih =>
    cases root with
    | file content isExecutable => cases h
    | directory top =>
      rw [find?_directory_cons] at h
      obtain ⟨child, hchild, hrest⟩ := Option.bind_eq_some_iff.1 h
      rw [List.cons_append, put_of_child hchild, find?_putEntry_self]
      exact ih hrest

/-- Putting a node where no directory stands leaves every directory a directory. -/
theorem find?_put_directory {root new : FileNode} {location place : Location} {entries : List (String × FileNode)}
    (hlocation : ∀ entries, root.find? location ≠ some (.directory entries))
    (hplace : root.find? place = some (.directory entries)) :
    ∃ entries, (root.put new location).find? place = some (.directory entries) := by
  induction location generalizing root place with
  | nil =>
    -- the root itself is replaced, and it is a file, below which there is no directory
    cases root with
    | directory top => exact absurd rfl (hlocation top)
    | file content isExecutable =>
      cases place with
      | nil => cases hplace
      | cons name rest => cases hplace
  | cons name rest ih =>
    cases root with
    | file content isExecutable => exact ⟨entries, hplace⟩
    | directory top =>
      cases hchild : top.lookup name with
      | none =>
        cases rest with
        | cons next more =>
          rw [put_of_missing hchild]
          exact ⟨entries, hplace⟩
        | nil =>
          rw [put_singleton]
          cases place with
          | nil => exact ⟨_, rfl⟩
          | cons key others =>
            have hkey : key ≠ name := by
              rintro rfl
              rw [find?_directory_cons, hchild] at hplace
              cases hplace
            exact ⟨entries, (find?_putEntry_of_ne hkey new top others).trans hplace⟩
      | some child =>
        rw [put_of_child hchild]
        cases place with
        | nil => exact ⟨_, rfl⟩
        | cons key others =>
          by_cases hkey : key = name
          · subst key
            have hbelow : ∀ place, (directory top).find? (name :: place) = child.find? place := by
              intro place
              rw [find?_directory_cons, hchild, Option.bind_some]
            rw [hbelow] at hplace
            rw [find?_putEntry_self]
            exact ih (fun inner hinner => hlocation inner ((hbelow rest).trans hinner)) hplace
          · exact ⟨entries, (find?_putEntry_of_ne hkey _ top others).trans hplace⟩

end GuardedPlan.FileNode
