import GuardedPlan.Proofs.Decision.Lookup
import Mathlib.Data.Fintype.Card
import Mathlib.Data.Set.Finite.List

/-!
# Descent in a forest

Decisions that were built are a forest of their own records: the index keeps the links that the records declare, the roots are the records without a parent, and from the roots one comes down to every id. Going up from an id has to end, since the ids are finitely many and none of them is above itself. It ends at one root and goes one way, because an id stands for one record and a record names one parent at most.
-/

namespace GuardedPlan

/-- Some items of a list are those with a property, each once and in the order of the list. -/
structure Selects {α : Type} (items chosen : List α) (P : α → Prop) : Prop where
  once : chosen.Nodup
  inOrder : chosen.Sublist items
  mem_iff : ∀ item, item ∈ chosen ↔ P item

open Relation

/-- On finitely many things, a relation that never leads back comes to an end. -/
theorem wellFounded_of_acyclic {α : Type} [Finite α] {r : α → α → Prop} (h : ∀ a, ¬ TransGen r a a) :
    WellFounded r := by
  have hirreflexive : Std.Irrefl (TransGen r) := ⟨h⟩
  have htransitive : WellFounded (TransGen r) := Finite.wellFounded_of_trans_of_irrefl _
  have hsingle : Subrelation r (TransGen r) := TransGen.single
  exact hsingle.wf htransitive

namespace Decision

variable {records : List Decision}

/-- Records with a property are selected by their ids. -/
theorem selects_filter (hdistinct : (records.map Decision.id).Nodup) (p : Decision → Bool) :
    Selects (records.map Decision.id) ((records.filter p).map Decision.id)
      fun id => ∃ record ∈ records, record.id = id ∧ p record = true := by
  have hinside : ((records.filter p).map Decision.id).Sublist (records.map Decision.id) :=
    List.filter_sublist.map Decision.id
  refine ⟨hinside.nodup hdistinct, hinside, fun id => ?_⟩
  simp only [List.mem_map, List.mem_filter]
  constructor
  · rintro ⟨record, ⟨hrecord, hp⟩, hid⟩
    exact ⟨record, hrecord, hid, hp⟩
  · rintro ⟨record, hrecord, hid, hp⟩
    exact ⟨record, ⟨hrecord, hp⟩, hid⟩

namespace IsForest

/-- An id stands for one record. -/
theorem eq_of_id_eq (h : IsForest records) {record other : Decision} (hrecord : record ∈ records)
    (hother : other ∈ records) (hid : record.id = other.id) : record = other :=
  List.inj_on_of_nodup_map h.distinct hrecord hother hid

/-- Going up from an id has to end. -/
theorem wellFounded_names (h : IsForest records) :
    WellFounded fun above below : {id // id ∈ records.map Decision.id} => Names records below above := by
  have hfinite : Finite {id // id ∈ records.map Decision.id} := (List.finite_toSet (records.map Decision.id)).to_subtype
  refine wellFounded_of_acyclic fun ⟨id, hid⟩ hcycle => ?_
  obtain ⟨record, hrecord, rfl⟩ := List.mem_map.1 hid
  have hdown := @TransGen.lift _ _ _ (fun above below => Names records below above) Subtype.val
    (fun _ _ hnames => hnames) _ _ hcycle
  exact h.acyclic record hrecord (transGen_swap.1 hdown)

end IsForest

end Decision

namespace DecisionTree

open Decision

/-- A way from a root down to an id, by links to children. -/
inductive Descent (tree : DecisionTree) (root : String) : List String → String → Prop
  | start (hroot : root ∈ tree.roots) : Descent tree root [root] root
  | down {path : List String} {above below : String} (hpath : Descent tree root path above)
      (hchild : below ∈ childrenIn tree.index above) : Descent tree root (path ++ [below]) below

/-- A tree is a rooted forest over records: the ids of the records are the keys of its two maps, its links and roots are those that the records declare, and every id is reached from one root only and by one way only. -/
structure IsRootedOver (tree : DecisionTree) (records : List Decision) : Prop where
  recorded : tree.records.names.Perm (records.map Decision.id)
  indexed : tree.index.names.Perm (records.map Decision.id)
  lookup : ∀ id record, tree.get? id = some record ↔ record ∈ records ∧ record.id = id
  links : ∀ record ∈ records, ∃ links, tree.index.get? record.id = some links ∧ links.parent = record.parent ∧
    Selects (records.map Decision.id) links.children (Names records · record.id)
  roots : Selects (records.map Decision.id) tree.roots fun id =>
    ∃ record ∈ records, record.id = id ∧ record.parent = none
  reached : ∀ id ∈ records.map Decision.id, ∃ root path, tree.Descent root path id ∧
    ∀ other way, tree.Descent other way id → other = root ∧ way = path

section

variable {tree : DecisionTree} {records : List Decision}

theorem Holds.mem_names_index_iff (htree : tree.Holds records records) {id : String} :
    id ∈ tree.index.names ↔ id ∈ records.map Decision.id := by
  rw [Table.mem_names_iff, htree.index]
  by_cases hid : id ∈ records.map Decision.id
  · simp [hid]
  · simp [hid]

/-- The links of a record are the parent that it names and the records that name it. -/
theorem Holds.links (htree : tree.Holds records records) (h : IsForest records) {record : Decision}
    (hrecord : record ∈ records) : ∃ links, tree.index.get? record.id = some links ∧ links.parent = record.parent ∧
      Selects (records.map Decision.id) links.children (Names records · record.id) := by
  have hlinks : tree.index.get? record.id = some (linksOf records record.id) := by
    rw [htree.index, if_pos (List.mem_map_of_mem hrecord)]
  have hfind : find? records record.id = some record := (find?_eq_some_iff h.distinct).2 ⟨hrecord, rfl⟩
  refine ⟨_, hlinks, by rw [linksOf, hfind]; rfl, ?_⟩
  simpa [linksOf, Names] using selects_filter h.distinct fun other => decide (other.parent = some record.id)

theorem Holds.selects_roots (htree : tree.Holds records records) (h : IsForest records) :
    Selects (records.map Decision.id) tree.roots fun id =>
      ∃ record ∈ records, record.id = id ∧ record.parent = none := by
  rw [htree.roots]
  simpa [rootsOf] using selects_filter h.distinct fun record => record.parent.isNone

theorem Holds.not_names_of_mem_roots (htree : tree.Holds records records) (h : IsForest records) {root parent : String}
    (hroot : root ∈ tree.roots) : ¬ Names records root parent := by
  rintro ⟨record, hrecord, hid, hparent⟩
  obtain ⟨own, hown, howner, hnone⟩ := ((htree.selects_roots h).mem_iff root).1 hroot
  cases h.eq_of_id_eq hown hrecord (howner.trans hid.symm)
  rw [hparent] at hnone
  cases hnone

/-- One comes down to every id from a root. -/
theorem Holds.exists_descent (htree : tree.Holds records records) (h : IsForest records)
    (id : {id // id ∈ records.map Decision.id}) : ∃ root path, tree.Descent root path id := by
  induction id using h.wellFounded_names.induction with
  | _ id ih =>
    obtain ⟨id, hid⟩ := id
    obtain ⟨record, hrecord, rfl⟩ := List.mem_map.1 hid
    cases hparent : record.parent with
    | none => exact ⟨record.id, _, .start (((htree.selects_roots h).mem_iff _).2 ⟨record, hrecord, rfl, hparent⟩)⟩
    | some parent =>
      have habove : parent ∈ records.map Decision.id := h.parented record hrecord parent hparent
      have hnames : Names records record.id parent := ⟨record, hrecord, rfl, hparent⟩
      obtain ⟨root, path, hpath⟩ := ih ⟨parent, habove⟩ hnames
      exact ⟨root, _, .down hpath (htree.mem_childrenIn_iff.2 ⟨habove, hnames⟩)⟩

/-- There is one way down to an id, and one root where it begins. -/
theorem Descent.unique (htree : tree.Holds records records) (h : IsForest records) {root other id : String}
    {path way : List String} (hpath : tree.Descent root path id) (hway : tree.Descent other way id) :
    other = root ∧ way = path := by
  -- the last step of either way goes up to the one parent of the id, or there is none because the id is a root
  induction hpath generalizing way with
  | start hroot =>
    cases hway with
    | start => exact ⟨rfl, rfl⟩
    | down hbefore hchild =>
      exact absurd (htree.mem_childrenIn_iff.1 hchild).2 (htree.not_names_of_mem_roots h hroot)
  | down hbefore hchild ih =>
    have hnames := (htree.mem_childrenIn_iff.1 hchild).2
    cases hway with
    | start hroot => exact absurd hnames (htree.not_names_of_mem_roots h hroot)
    | down hearlier hagain =>
      cases hnames.eq h.distinct (htree.mem_childrenIn_iff.1 hagain).2
      obtain ⟨rfl, rfl⟩ := ih hearlier
      exact ⟨rfl, rfl⟩

/-- Decisions that were built are a rooted forest over their records. -/
theorem isRootedOver_of_build (h : build records = .ok tree) : tree.IsRootedOver records := by
  obtain ⟨htree, hforest⟩ := holds_of_build h
  refine ⟨?_, ?_, fun id record => ?_, fun record hrecord => htree.links hforest hrecord, htree.selects_roots hforest,
    fun id hid => ?_⟩
  · exact Table.names_perm hforest.distinct fun id => htree.mem_names_records_iff
  · exact Table.names_perm hforest.distinct fun id => htree.mem_names_index_iff
  · rw [get?, htree.records, find?_eq_some_iff hforest.distinct]
  · obtain ⟨root, path, hpath⟩ := htree.exists_descent hforest ⟨id, hid⟩
    exact ⟨root, path, hpath, fun other way hway => hpath.unique htree hforest hway⟩

end

end DecisionTree

theorem DecisionTree.isRootedOver_of_build_family :
    ∃ tree, DecisionTree.build Sample.family = .ok tree ∧ tree.roots = ["a", "d"] ∧
      tree.index.entries = Sample.familyLinks ∧ tree.IsRootedOver Sample.family := by
  obtain ⟨tree, hbuild, hroots, hindex⟩ := Sample.build_family
  exact ⟨tree, hbuild, hroots, hindex, DecisionTree.isRootedOver_of_build hbuild⟩

end GuardedPlan
