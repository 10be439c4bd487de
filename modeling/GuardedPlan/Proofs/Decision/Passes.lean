import GuardedPlan.Decision.Tree
import GuardedPlan.Proofs.Base.Tables

/-!
# The two passes over records

What the passes that build a tree leave behind. While they run, the tree holds the records that were taken in and the links that the records declare which were linked so far; each record that is taken in or linked carries this one record further. The first pass stops at the first id that occurred earlier, the second one at the first parent that is not there, and when both come to the end the tree has the links that all records declare.
-/

namespace GuardedPlan

namespace Decision

/-! ### What records declare -/

/-- The ids without a parent, in the order of the records. -/
def rootsOf (records : List Decision) : List String :=
  (records.filter fun record => record.parent.isNone).map Decision.id

/-- The links of an id: the parent that its record names, and the records that name it. -/
def linksOf (records : List Decision) (id : String) : DecisionLinks :=
  ⟨(find? records id).bind Decision.parent, (records.filter fun other => other.parent = some id).map Decision.id⟩

variable {records before rest : List Decision} {record : Decision}

theorem find?_eq_none_iff {id : String} : find? records id = none ↔ id ∉ records.map Decision.id := by
  simp [find?]

theorem find?_concat (records : List Decision) (record : Decision) (id : String) :
    find? (records ++ [record]) id = (find? records id).or (if record.id = id then some record else none) := by
  by_cases hid : record.id = id
  · simp [find?, List.find?_append, hid]
  · simp [find?, List.find?_append, hid]

theorem rootsOf_concat (records : List Decision) (record : Decision) :
    rootsOf (records ++ [record]) = rootsOf records ++ (if record.parent = none then [record.id] else []) := by
  by_cases hparent : record.parent = none
  · simp [rootsOf, hparent]
  · simp [rootsOf, hparent]

theorem linksOf_nil (id : String) : linksOf [] id = .unlinked :=
  rfl

/-- A record that is linked adds itself to the children of its parent, and its parent to itself. -/
theorem linksOf_concat {records : List Decision} {record : Decision} (hnew : record.id ∉ records.map Decision.id)
    (id : String) : linksOf (records ++ [record]) id =
      ⟨if id = record.id then record.parent else (linksOf records id).parent,
        (linksOf records id).children ++ (if record.parent = some id then [record.id] else [])⟩ := by
  have hparent : (find? (records ++ [record]) id).bind Decision.parent =
      if id = record.id then record.parent else (find? records id).bind Decision.parent := by
    rw [find?_concat]
    by_cases hid : id = record.id
    · rw [hid, find?_eq_none_iff.2 hnew]
      simp
    · simp [hid, Ne.symm hid]
  have hchildren : ((records ++ [record]).filter fun other => other.parent = some id).map Decision.id =
      (records.filter fun other => other.parent = some id).map Decision.id ++
        (if record.parent = some id then [record.id] else []) := by
    by_cases hnamed : record.parent = some id
    · simp [hnamed]
    · simp [hnamed]
  rw [linksOf, hparent, hchildren, linksOf]

/-! ### What stops a pass -/

/-- An id is that of the first record whose id occurred earlier. -/
def FirstRepeated (records : List Decision) (id : String) : Prop :=
  ∃ before record after, records = before ++ record :: after ∧ record.id = id ∧ id ∈ before.map Decision.id ∧
    (before.map Decision.id).Nodup

/-- Every parent that records name is among some ids. -/
def ParentsIn (ids : List String) (records : List Decision) : Prop :=
  ∀ record ∈ records, ∀ parent, record.parent = some parent → parent ∈ ids

/-- An id is that of the first record whose parent is not there, and the parent is the one that it names. -/
def FirstOrphaned (records : List Decision) (id parent : String) : Prop :=
  ∃ before record after, records = before ++ record :: after ∧ record.id = id ∧ record.parent = some parent ∧
    parent ∉ records.map Decision.id ∧ ParentsIn (records.map Decision.id) before

theorem FirstRepeated.not_nodup {id : String} (h : FirstRepeated records id) : ¬ (records.map Decision.id).Nodup := by
  obtain ⟨before, record, after, rfl, rfl, hmet, -⟩ := h
  rw [List.map_append, List.map_cons, List.nodup_append]
  rintro ⟨-, -, hapart⟩
  exact hapart _ hmet _ List.mem_cons_self rfl

theorem FirstOrphaned.not_parentsIn {id parent : String} (h : FirstOrphaned records id parent) :
    ¬ ParentsIn (records.map Decision.id) records := by
  obtain ⟨before, record, after, hsplit, -, hparent, hmissing, -⟩ := h
  exact fun hparented => hmissing (hparented record (by simp [hsplit]) parent hparent)

theorem parentsIn_concat {ids : List String} (hbefore : ParentsIn ids before)
    (hrecord : ∀ parent, record.parent = some parent → parent ∈ ids) : ParentsIn ids (before ++ [record]) := by
  intro own hown
  rcases List.mem_append.1 hown with hown | hown
  · exact hbefore own hown
  · rw [List.mem_singleton.1 hown]
    exact hrecord

theorem nodup_concat_ids (hbefore : (before.map Decision.id).Nodup) (hnew : record.id ∉ before.map Decision.id) :
    ((before ++ [record]).map Decision.id).Nodup := by
  rw [List.map_append, List.nodup_append]
  refine ⟨hbefore, by simp, fun id hid own hown => ?_⟩
  rw [List.map_singleton, List.mem_singleton] at hown
  rintro rfl
  exact hnew (hown ▸ hid)

end Decision

namespace DecisionTree

open Decision

/-- A tree holds the records that were taken in, and for each of them the links that those declare which were linked. -/
structure Holds (tree : DecisionTree) (taken linked : List Decision) : Prop where
  records : ∀ id, tree.records.get? id = find? taken id
  roots : tree.roots = rootsOf linked
  index : ∀ id, tree.index.get? id = if id ∈ taken.map Decision.id then some (linksOf linked id) else none

variable {tree : DecisionTree} {taken linked rest : List Decision} {record : Decision}

theorem holds_empty : empty.Holds [] [] :=
  ⟨fun _ => rfl, rfl, fun _ => rfl⟩

namespace Holds

theorem mem_names_records_iff (h : tree.Holds taken linked) {id : String} :
    id ∈ tree.records.names ↔ id ∈ taken.map Decision.id := by
  rw [Table.mem_names_iff, h.records, Option.isSome_iff_ne_none, ne_eq, find?_eq_none_iff, Classical.not_not]

/-! ### Taking records in -/

theorem add_eq_error (h : tree.Holds taken linked) (hmet : record.id ∈ taken.map Decision.id) :
    tree.add record = .error (.duplicateId record.id) := by
  cases hfound : find? taken record.id with
  | none => exact absurd hmet (find?_eq_none_iff.1 hfound)
  | some other => simp [add, h.records, hfound]

/-- One step of the first pass: a record with an id of its own is taken in, without links. -/
theorem add_eq_ok (h : tree.Holds taken []) (hnew : record.id ∉ taken.map Decision.id) :
    ∃ next, tree.add record = .ok next ∧ next.Holds (taken ++ [record]) [] := by
  have hfree : find? taken record.id = none := find?_eq_none_iff.2 hnew
  have hadd : tree.add record = .ok ⟨tree.records.insert record.id record, tree.roots,
      tree.index.insert record.id .unlinked⟩ := by
    simp only [add, h.records, hfree]
  refine ⟨_, hadd, fun id => ?_, h.roots, fun id => ?_⟩
  · rw [Table.get_insert, h.records, find?_concat]
    by_cases hid : id = record.id
    · simp [hid, hfree]
    · simp [hid, Ne.symm hid]
  · rw [Table.get_insert, h.index, linksOf_nil]
    by_cases hid : id = record.id
    · simp [hid]
    · simp [hid]

/-- The first pass: it stops at the first id that occurred earlier, or holds all records with ids of their own. -/
theorem foldlM_add (h : tree.Holds taken []) (hdistinct : (taken.map Decision.id).Nodup) :
    (∃ id, rest.foldlM add tree = .error (.duplicateId id) ∧ FirstRepeated (taken ++ rest) id) ∨
      ∃ next, rest.foldlM add tree = .ok next ∧ next.Holds (taken ++ rest) [] ∧
        ((taken ++ rest).map Decision.id).Nodup := by
  -- the records that were taken in are the part of the list before those that are left
  induction rest generalizing tree taken with
  | nil =>
    rw [List.append_nil]
    exact .inr ⟨tree, rfl, h, hdistinct⟩
  | cons record rest ih =>
    rw [List.foldlM_cons]
    by_cases hmet : record.id ∈ taken.map Decision.id
    · refine .inl ⟨record.id, ?_, taken, record, rest, rfl, rfl, hmet, hdistinct⟩
      rw [h.add_eq_error hmet]
      rfl
    · obtain ⟨next, hadd, hnext⟩ := h.add_eq_ok hmet
      rw [hadd, List.append_cons]
      exact ih hnext (nodup_concat_ids hdistinct hmet)

/-! ### Linking records -/

theorem link_eq_error (h : tree.Holds taken linked) {parent : String} (hparent : record.parent = some parent)
    (hmissing : parent ∉ taken.map Decision.id) : tree.link record = .error (.missingParent record.id parent) := by
  have habsent : tree.index.get? parent = none := by rw [h.index, if_neg hmissing]
  simp only [link, hparent, habsent]

/-- One step of the second pass: a record whose parent is there is linked to it, and one without a parent is a root. -/
theorem link_eq_ok (h : tree.Holds taken linked) (hnew : record.id ∉ linked.map Decision.id)
    (hparented : ∀ parent, record.parent = some parent → parent ∈ taken.map Decision.id) :
    ∃ next, tree.link record = .ok next ∧ next.Holds taken (linked ++ [record]) := by
  cases hparent : record.parent with
  | none =>
    have hlink : tree.link record = .ok ⟨tree.records, tree.roots ++ [record.id], tree.index⟩ := by
      simp only [link, hparent]
    refine ⟨_, hlink, h.records, ?_, fun id => ?_⟩
    · rw [rootsOf_concat, if_pos hparent, h.roots]
    · have hlinks : linksOf (linked ++ [record]) id = linksOf linked id := by
        rw [linksOf_concat hnew, hparent]
        by_cases hid : id = record.id
        · simp [linksOf, hid, find?_eq_none_iff.2 hnew]
        · simp [hid]
      rw [h.index, hlinks]
  | some parent =>
    have hthere : tree.index.get? parent = some (linksOf linked parent) := by
      rw [h.index, if_pos (hparented parent hparent)]
    have hlink : tree.link record = .ok ⟨tree.records, tree.roots,
        (tree.index.modify parent (DecisionLinks.addChild record.id)).modify record.id
          (DecisionLinks.setParent parent)⟩ := by
      simp only [link, hparent, hthere]
    refine ⟨_, hlink, h.records, ?_, fun id => ?_⟩
    · rw [rootsOf_concat, hparent]
      simpa using h.roots
    · rw [Table.get?_modify_of_forall (Table.get?_modify_of_forall h.index _ _), linksOf_concat hnew, hparent]
      -- the record gets its parent and the parent its child, also where a record is its own parent
      have hnamed : some parent = some id ↔ id = parent := by rw [Option.some.injEq, eq_comm]
      simp only [hnamed]
      by_cases hown : id = record.id
      · by_cases habove : id = parent
        · simp only [if_pos hown, if_pos habove, DecisionLinks.setParent, DecisionLinks.addChild]
        · simp only [if_pos hown, if_neg habove, DecisionLinks.setParent, List.append_nil]
      · by_cases habove : id = parent
        · simp only [if_neg hown, if_pos habove, DecisionLinks.addChild]
        · simp only [if_neg hown, if_neg habove, List.append_nil]

/-- The second pass: it stops at the first parent that is not there, or the tree holds the links of all records. -/
theorem foldlM_link {before : List Decision} (h : tree.Holds (before ++ rest) before)
    (hdistinct : ((before ++ rest).map Decision.id).Nodup)
    (hparented : ParentsIn ((before ++ rest).map Decision.id) before) :
    (∃ id parent, rest.foldlM link tree = .error (.missingParent id parent) ∧
        FirstOrphaned (before ++ rest) id parent) ∨
      ∃ next, rest.foldlM link tree = .ok next ∧ next.Holds (before ++ rest) (before ++ rest) ∧
        ParentsIn ((before ++ rest).map Decision.id) (before ++ rest) := by
  -- the records that were linked are the part of the list before those that are left
  induction rest generalizing tree before with
  | nil =>
    rw [List.append_nil] at h hdistinct hparented ⊢
    exact .inr ⟨tree, rfl, h, hparented⟩
  | cons record rest ih =>
    rw [List.foldlM_cons]
    by_cases hthere : ∀ parent, record.parent = some parent → parent ∈ (before ++ record :: rest).map Decision.id
    · have hnew : record.id ∉ before.map Decision.id := by
        rw [List.map_append, List.map_cons, List.nodup_append] at hdistinct
        exact fun hmem => hdistinct.2.2 _ hmem _ List.mem_cons_self rfl
      obtain ⟨next, hlink, hnext⟩ := h.link_eq_ok hnew hthere
      have hlinked := parentsIn_concat hparented hthere
      rw [hlink]
      rw [List.append_cons] at hnext hdistinct hlinked ⊢
      exact ih hnext hdistinct hlinked
    · simp only [Classical.not_forall, exists_prop] at hthere
      obtain ⟨parent, hparent, hmissing⟩ := hthere
      refine .inl ⟨record.id, parent, ?_, before, record, rest, rfl, rfl, hparent, hmissing, hparented⟩
      rw [h.link_eq_error hparent hmissing]
      rfl

end Holds

end DecisionTree

end GuardedPlan
