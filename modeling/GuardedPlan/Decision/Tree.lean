import GuardedPlan.Decision.Basic

/-!
# Decision trees

A list of decisions forms a forest when no id repeats, every parent is there and nobody is an ancestor of itself. A tree is built in two passes over the list, the first of which takes the records in and the second of which hangs every record below its parent, and is then walked for cycles. The walk goes down from the roots and after that from every id it has not met. Since a record has at most one parent, an id that no root leads to lies on a cycle or below one, and it is the second round of the walk that comes upon the cycle.
-/

namespace GuardedPlan

/-- Why decisions form no forest. -/
inductive DecisionFault where
  | duplicateId (id : String)
  | missingParent (id parent : String)
  | cycle (path : List String)
deriving DecidableEq, Repr

def DecisionFault.message : DecisionFault → String
  | duplicateId id => "duplicate decision id '" ++ id ++ "'"
  | missingParent id parent => "decision '" ++ id ++ "' names missing parent '" ++ parent ++ "'"
  | cycle path => "decision cycle: " ++ " -> ".intercalate path

/-- The parent and the children of a decision. -/
structure DecisionLinks where
  parent : Option String
  children : List String
deriving DecidableEq, Repr

namespace DecisionLinks

/-- A decision whose place is not known yet. -/
def unlinked : DecisionLinks :=
  ⟨none, []⟩

def addChild (child : String) (links : DecisionLinks) : DecisionLinks :=
  { links with children := links.children ++ [child] }

def setParent (parent : String) (links : DecisionLinks) : DecisionLinks :=
  { links with parent := some parent }

end DecisionLinks

namespace Decision

/-- The first record with an id. -/
def find? (records : List Decision) (id : String) : Option Decision :=
  records.find? fun record => record.id = id

end Decision

/-- Decisions by id, the ids without a parent, and the links of every id. -/
structure DecisionTree where
  records : Table Decision
  roots : List String
  index : Table DecisionLinks
deriving DecidableEq, Repr

/-! ### Walking down -/

/-- Where a walk stands: the ids whose whole branch it has walked, the ids that it is inside of, and the path on which it came down. -/
structure DecisionWalk where
  done : List String
  inProgress : List String
  path : List String
deriving DecidableEq, Repr

/-- The names of a table that are not among given ones. -/
def Table.namesApartFrom {α : Type} (table : Table α) (inside : List String) : List String :=
  table.names.filter fun name => !inside.contains name

/-- Going down to a name that the walk is not inside of leaves fewer names to go down to. -/
theorem Table.length_namesApartFrom_lt {α : Type} {table : Table α} {inside : List String} {name : String} {value : α}
    (hvalue : table.get? name = some value) (hnew : name ∉ inside) :
    (table.namesApartFrom (name :: inside)).length < (table.namesApartFrom inside).length := by
  have hsplit : table.namesApartFrom (name :: inside) =
      (table.namesApartFrom inside).filter fun other => decide (other ≠ name) := by
    rw [namesApartFrom, namesApartFrom, List.filter_filter]
    refine List.filter_congr fun other _ => ?_
    simp
  rw [hsplit, List.length_filter_lt_length_iff_exists]
  obtain ⟨before, after, hentries, _⟩ := List.lookup_eq_some_iff.1 hvalue
  refine ⟨name, ?_, by simp⟩
  simp [namesApartFrom, names, hentries, hnew]

namespace DecisionWalk

def start : DecisionWalk :=
  ⟨[], [], []⟩

/-- Goes down to an id. One that the walk is inside of closes a cycle, which is the path from where that id stands on it. -/
def enter (walk : DecisionWalk) (id : String) : Except (List String) DecisionWalk :=
  let path := walk.path ++ [id]
  if walk.inProgress.contains id then .error (path.drop ((path.idxOf? id).getD 0))
  else .ok { walk with inProgress := id :: walk.inProgress, path := path }

/-- Comes back up from an id, whose branch is walked then. -/
def leave (walk : DecisionWalk) (id : String) : DecisionWalk :=
  ⟨id :: walk.done, walk.inProgress.erase id, walk.path.dropLast⟩

theorem inProgress_of_enter_eq_ok {walk entered : DecisionWalk} {id : String} (h : walk.enter id = .ok entered) :
    id ∉ walk.inProgress ∧ entered.inProgress = id :: walk.inProgress := by
  rw [enter] at h
  split at h
  · cases h
  · cases h
    exact ⟨mt List.contains_iff_mem.2 ‹_›, rfl⟩

theorem inProgress_leave {walk : DecisionWalk} {id : String} {inside : List String}
    (h : walk.inProgress = id :: inside) : (walk.leave id).inProgress = inside := by
  rw [leave, h, List.erase_cons_head]

/-- Walks that are inside of some ids. -/
abbrev Inside (ids : List String) : Type :=
  {walk : DecisionWalk // walk.inProgress = ids}

/-- Visits an id and all that stands below it, unless its branch was walked before. The walk is inside of the same ids again when it has come back, which is why it has fewer names to go down to on every level. -/
def visitInside (index : Table DecisionLinks) (walk : DecisionWalk) (id : String) :
    Except (List String) (Inside walk.inProgress) :=
  if walk.done.contains id then .ok ⟨walk, rfl⟩
  else
    match hentered : walk.enter id with
    | .error cycle => .error cycle
    | .ok entered =>
      let below : Except (List String) (Inside entered.inProgress) :=
        match _hlinks : index.get? id with
        | none => .ok ⟨entered, rfl⟩
        | some links =>
          links.children.foldlM
            (fun here child => (visitInside index here.val child).map fun next =>
              ⟨next.val, next.property.trans here.property⟩)
            (⟨entered, rfl⟩ : Inside entered.inProgress)
      below.map fun after =>
        ⟨after.val.leave id, inProgress_leave (after.property.trans (inProgress_of_enter_eq_ok hentered).2)⟩
termination_by (index.namesApartFrom walk.inProgress).length
decreasing_by
  obtain ⟨hnew, hinside⟩ := inProgress_of_enter_eq_ok hentered
  rw [here.property, hinside]
  exact Table.length_namesApartFrom_lt _hlinks hnew

/-- A visit, wherever the walk stands. -/
def visit (index : Table DecisionLinks) (walk : DecisionWalk) (id : String) : Except (List String) DecisionWalk :=
  (visitInside index walk id).map Subtype.val

/-- Begins a new path at an id whose branch was not walked yet. -/
def visitFrom (index : Table DecisionLinks) (walk : DecisionWalk) (id : String) : Except (List String) DecisionWalk :=
  if walk.done.contains id then .ok walk else visit index { walk with path := [] } id

end DecisionWalk

/-! ### Building -/

namespace DecisionTree

def empty : DecisionTree :=
  ⟨.empty, [], .empty⟩

/-- Takes a record in, which is not linked yet. -/
def add (tree : DecisionTree) (record : Decision) : Except DecisionFault DecisionTree :=
  match tree.records.get? record.id with
  | some _ => .error (.duplicateId record.id)
  | none => .ok { tree with
      records := tree.records.insert record.id record
      index := tree.index.insert record.id .unlinked }

/-- Hangs a record below its parent, or puts it among the roots. -/
def link (tree : DecisionTree) (record : Decision) : Except DecisionFault DecisionTree :=
  match record.parent with
  | none => .ok { tree with roots := tree.roots ++ [record.id] }
  | some parent =>
    match tree.index.get? parent with
    | none => .error (.missingParent record.id parent)
    | some _ =>
      let index := tree.index.modify parent (DecisionLinks.addChild record.id)
      .ok { tree with index := index.modify record.id (DecisionLinks.setParent parent) }

/-- The first cycle on walks from every root and then from every id in ascending order. -/
def cycle? (tree : DecisionTree) : Option (List String) :=
  match (tree.roots ++ tree.records.names).foldlM (DecisionWalk.visitFrom tree.index) .start with
  | .ok _ => none
  | .error cycle => some cycle

def build (records : List Decision) : Except DecisionFault DecisionTree := do
  let taken ← records.foldlM add empty
  let tree ← records.foldlM link taken
  match tree.cycle? with
  | some path => .error (.cycle path)
  | none => .ok tree

def get? (tree : DecisionTree) (id : String) : Option Decision :=
  tree.records.get? id

end DecisionTree

/-- The record of an id: the forest's, or without a forest the first in the list. -/
def Decision.resolve (tree : Option DecisionTree) (records : List Decision) (id : String) : Option Decision :=
  match tree with
  | some tree => tree.get? id
  | none => find? records id

end GuardedPlan
