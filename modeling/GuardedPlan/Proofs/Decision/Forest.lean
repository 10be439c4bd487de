import GuardedPlan.Proofs.Decision.Passes
import GuardedPlan.Proofs.Decision.Walk
import Mathlib.Logic.Relation

/-!
# When decisions form a forest

Decisions form a forest when their ids are distinct, their parents are there and following parents never leads back. The walk judges the last of these by the order in which it finishes ids: an id on a cycle has a child on the same cycle, and that child would have to be finished before it, without end. What stands in the way of a forest is named in a fixed order: a repeated id before a missing parent, and a missing parent before a cycle.
-/

namespace GuardedPlan

open Relation

namespace Decision

/-- The record with an id names a parent. -/
def Names (records : List Decision) (id parent : String) : Prop :=
  ∃ record ∈ records, record.id = id ∧ record.parent = some parent

/-- Following parents from an id leads back to it. -/
def OnCycle (records : List Decision) (id : String) : Prop :=
  TransGen (Names records) id id

/-- Ids from one of them down to itself, each of which names the one before it as its parent. -/
def IsCycle (records : List Decision) (path : List String) : Prop :=
  ∃ id between, path = id :: between ++ [id] ∧ path.IsChain fun above below => Names records below above

/-- Records with ids of their own, whose parents are all there and none of which is above itself. -/
structure IsForest (records : List Decision) : Prop where
  distinct : (records.map Decision.id).Nodup
  parented : ParentsIn (records.map Decision.id) records
  acyclic : ∀ record ∈ records, ¬ OnCycle records record.id

/-- Along a cycle one comes from a record back to it. -/
theorem IsCycle.exists_onCycle {records : List Decision} {path : List String} (h : IsCycle records path) :
    ∃ record ∈ records, OnCycle records record.id := by
  obtain ⟨id, between, rfl, hpath⟩ := h
  obtain ⟨next, rest, hnext⟩ :=
    List.exists_cons_of_ne_nil (List.append_ne_nil_of_right_ne_nil between (List.cons_ne_nil id []))
  rw [List.cons_append, hnext, List.isChain_cons_cons] at hpath
  obtain ⟨hfirst, hrest⟩ := hpath
  have hlast : (next :: rest).getLast (List.cons_ne_nil _ _) = id := by simp [← hnext]
  have hdown : TransGen (fun above below => Names records below above) id id :=
    TransGen.head' hfirst (List.relationReflTransGen_of_exists_isChain_cons rest hrest hlast)
  have hup : OnCycle records id := transGen_swap.1 hdown
  obtain ⟨parent, ⟨record, hrecord, rfl, -⟩, -⟩ := TransGen.head'_iff.1 hup
  exact ⟨record, hrecord, hup⟩

end Decision

namespace DecisionTree

open Decision

variable {tree : DecisionTree} {records : List Decision}

/-! ### Children and parents -/

/-- The links that a tree holds lead from every id to the records that name it as their parent. -/
theorem Holds.mem_childrenIn_iff (h : tree.Holds records records) {id child : String} :
    child ∈ childrenIn tree.index id ↔ id ∈ records.map Decision.id ∧ Names records child id := by
  by_cases hid : id ∈ records.map Decision.id
  · have hlinks : tree.index.get? id = some (linksOf records id) := by rw [h.index, if_pos hid]
    rw [childrenIn, hlinks, and_iff_right hid, Names]
    simp only [linksOf, List.mem_map, List.mem_filter, decide_eq_true_eq]
    exact exists_congr fun record => by rw [and_assoc, and_comm (a := record.parent = some id)]
  · have hlinks : tree.index.get? id = none := by rw [h.index, if_neg hid]
    simp [childrenIn, hlinks, hid]

/-! ### Cycles -/

/-- No id that a walk has finished is on a cycle. -/
theorem Settled.not_onCycle (htree : tree.Holds records records)
    (hparented : ParentsIn (records.map Decision.id) records) {done : List String} {id : String}
    (h : Settled tree.index done) (hid : id ∈ done) : ¬ OnCycle records id := by
  -- the child through which the cycle comes back to an id was finished before the id
  induction done generalizing id with
  | nil => cases hid
  | cons last before ih =>
    obtain ⟨hchildren, hbefore⟩ := h
    rcases List.mem_cons.1 hid with rfl | hid
    · intro hcycle
      obtain ⟨child, hway, hchild⟩ := TransGen.tail'_iff.1 hcycle
      have hthere : id ∈ records.map Decision.id := by
        obtain ⟨record, hrecord, -, hparent⟩ := hchild
        exact hparented record hrecord id hparent
      exact ih hbefore (hchildren child (htree.mem_childrenIn_iff.2 ⟨hthere, hchild⟩)) (TransGen.head' hchild hway)
    · exact ih hbefore hid

/-- The path that a walk came back on is a cycle of the records. -/
theorem Circular.isCycle (htree : tree.Holds records records) {path : List String} (h : Circular tree.index path) :
    IsCycle records path := by
  obtain ⟨id, between, hpath, hdescending⟩ := h
  exact ⟨id, between, hpath, hdescending.imp fun _ _ hchild => (htree.mem_childrenIn_iff.1 hchild).2⟩

/-- The two rounds of the walk go as the empty path says, from every start. -/
theorem walk_eq (tree : DecisionTree) :
    (tree.roots ++ tree.records.names).foldlM (DecisionWalk.visitFrom tree.index) .start =
      ((tree.roots ++ tree.records.names).foldlM (descend tree.index []) []).map (DecisionWalk.onPath []) :=
  foldlM_embed (DecisionWalk.onPath []) (fun start _ done => DecisionWalk.visitFrom_onPath done start) []

/-- The walk comes to its end without a cycle, or breaks off with the one it came upon. -/
theorem cycle?_cases (tree : DecisionTree) :
    (∃ done, (tree.roots ++ tree.records.names).foldlM (descend tree.index []) [] = .ok done ∧ tree.cycle? = none) ∨
      ∃ path, (tree.roots ++ tree.records.names).foldlM (descend tree.index []) [] = .error path ∧
        tree.cycle? = some path := by
  rw [cycle?, walk_eq]
  cases (tree.roots ++ tree.records.names).foldlM (descend tree.index []) [] with
  | ok done => exact .inl ⟨done, rfl, rfl⟩
  | error path => exact .inr ⟨path, rfl, rfl⟩

theorem isCycle_of_cycle?_eq_some (htree : tree.Holds records records) {path : List String}
    (h : tree.cycle? = some path) : IsCycle records path ∧ path.dropLast.Nodup := by
  rcases tree.cycle?_cases with ⟨done, -, hnone⟩ | ⟨cycle, hwalk, hsome⟩
  · rw [hnone] at h
    cases h
  · cases hsome.symm.trans h
    obtain ⟨start, -, done, hvisit⟩ := exists_of_foldlM_eq_error hwalk
    obtain ⟨hcircular, hapart⟩ := descend_eq_error hvisit (List.isChain_singleton _) List.nodup_nil
    exact ⟨hcircular.isCycle htree, hapart⟩

/-- A walk over all ids that meets no cycle leaves none. -/
theorem not_onCycle_of_cycle?_eq_none (htree : tree.Holds records records)
    (hparented : ParentsIn (records.map Decision.id) records) (h : tree.cycle? = none) :
    ∀ record ∈ records, ¬ OnCycle records record.id := by
  intro record hrecord
  rcases tree.cycle?_cases with ⟨done, hwalk, -⟩ | ⟨cycle, -, hsome⟩
  · have hnothing : Settled tree.index [] := trivial
    obtain ⟨hsettled, hall, -⟩ := foldlM_eq_ok (fun _ _ _ _ => descend_eq_ok) hwalk hnothing
    have hstart : record.id ∈ tree.records.names :=
      htree.mem_names_records_iff.2 (List.mem_map_of_mem hrecord)
    exact hsettled.not_onCycle htree hparented (hall record.id (List.mem_append_right _ hstart))
  · rw [hsome] at h
    cases h

/-! ### Building -/

/-- What building comes to, in the order in which it looks: a repeated id, a missing parent, a cycle, a forest whose links are those that the records declare. -/
theorem build_cases (records : List Decision) :
    (∃ id, build records = .error (.duplicateId id) ∧ FirstRepeated records id) ∨
      (∃ id parent, build records = .error (.missingParent id parent) ∧ (records.map Decision.id).Nodup ∧
        FirstOrphaned records id parent) ∨
      (∃ path, build records = .error (.cycle path) ∧ (records.map Decision.id).Nodup ∧
        ParentsIn (records.map Decision.id) records ∧ IsCycle records path ∧ path.dropLast.Nodup) ∨
      ∃ tree, build records = .ok tree ∧ tree.Holds records records ∧ IsForest records := by
  rcases @Holds.foldlM_add empty [] records holds_empty List.nodup_nil with ⟨id, hadd, hrepeated⟩ |
    ⟨taken, hadd, htaken, hdistinct⟩
  · exact .inl ⟨id, by simp [build, hadd, bind, Except.bind], hrepeated⟩
  rcases htaken.foldlM_link hdistinct (by simp [ParentsIn]) with ⟨id, parent, hlink, horphaned⟩ |
    ⟨tree, hlink, htree, hparented⟩
  · exact .inr (.inl ⟨id, parent, by simp [build, hadd, hlink, bind, Except.bind], hdistinct, horphaned⟩)
  cases hcycle : tree.cycle? with
  | some path =>
    exact .inr (.inr (.inl ⟨path, by simp [build, hadd, hlink, hcycle, bind, Except.bind], hdistinct, hparented,
      isCycle_of_cycle?_eq_some htree hcycle⟩))
  | none =>
    exact .inr (.inr (.inr ⟨tree, by simp [build, hadd, hlink, hcycle, bind, Except.bind], htree, hdistinct, hparented,
      not_onCycle_of_cycle?_eq_none htree hparented hcycle⟩))

/-- What is built are forests, with the links that their records declare. -/
theorem holds_of_build (h : build records = .ok tree) : tree.Holds records records ∧ IsForest records := by
  rcases build_cases records with ⟨id, hbuild, -⟩ | ⟨id, parent, hbuild, -⟩ | ⟨path, hbuild, -⟩ |
    ⟨built, hbuild, hholds, hforest⟩
  · simp [hbuild] at h
  · simp [hbuild] at h
  · simp [hbuild] at h
  · rw [hbuild] at h
    cases h
    exact ⟨hholds, hforest⟩

/-- Decisions are built exactly when they form a forest. Otherwise a repeated id is named before anything else, by the first record whose id occurred earlier; with distinct ids a missing parent is named, by the first record whose parent is not there; with distinct ids and all parents there is a cycle, and one is named. -/
theorem build_judges_forest (records : List Decision) :
    ((∃ tree, build records = .ok tree) ↔ IsForest records) ∧
      ((∃ id, build records = .error (.duplicateId id) ∧ FirstRepeated records id) ↔
        ¬ (records.map Decision.id).Nodup) ∧
      ((∃ id parent, build records = .error (.missingParent id parent) ∧ FirstOrphaned records id parent) ↔
        (records.map Decision.id).Nodup ∧ ¬ ParentsIn (records.map Decision.id) records) ∧
      ((∃ path, build records = .error (.cycle path) ∧ IsCycle records path) ↔
        (records.map Decision.id).Nodup ∧ ParentsIn (records.map Decision.id) records ∧
          ∃ record ∈ records, OnCycle records record.id) := by
  rcases build_cases records with ⟨id, hbuild, hrepeated⟩ | ⟨id, parent, hbuild, hdistinct, horphaned⟩ |
    ⟨path, hbuild, hdistinct, hparented, hcycle, -⟩ | ⟨tree, hbuild, -, hforest⟩
  · have hno : ¬ IsForest records := fun hforest => hrepeated.not_nodup hforest.distinct
    simp [hbuild, hrepeated, hrepeated.not_nodup, hno]
  · have hno : ¬ IsForest records := fun hforest => horphaned.not_parentsIn hforest.parented
    simp [hbuild, hdistinct, horphaned, horphaned.not_parentsIn, hno]
  · have hno : ¬ IsForest records := fun hforest =>
      hcycle.exists_onCycle.elim fun record ⟨hrecord, honcycle⟩ => hforest.acyclic record hrecord honcycle
    simp [hbuild, hdistinct, hparented, hcycle, hcycle.exists_onCycle, hno]
  · have hnone : ¬ ∃ record ∈ records, OnCycle records record.id :=
      fun ⟨record, hrecord, honcycle⟩ => hforest.acyclic record hrecord honcycle
    simp only [hbuild, hforest, hforest.distinct, hforest.parented, hnone]
    simp

end DecisionTree

end GuardedPlan
