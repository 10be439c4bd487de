import GuardedPlan.Decision.Tree
import GuardedPlan.Proofs.Base.Lists
import Mathlib.Data.List.Chain

/-!
# Walks over decisions

What a walk down the links of decisions proves. The walk has one stack and two sets for all its visits; as long as the ids that it is inside of are those on the stack, a visit leaves both as they were and adds to the ids that are done, so that a walk can be told by the path alone that leads to where it is. A walk that comes to its end has finished ids one after the other, and each of them after all of its children; this order is what rules a cycle out. A walk that does not come to its end stands on a path from parent to child that has come back to one of its own ids.
-/

namespace GuardedPlan

variable {index : Table DecisionLinks}

namespace DecisionTree

/-- The ids directly below an id. -/
def childrenIn (index : Table DecisionLinks) (id : String) : List String :=
  match index.get? id with
  | some links => links.children
  | none => []

/-- Ids in the order in which a walk finished them, the last one first: all children of an id were finished before it. -/
def Settled (index : Table DecisionLinks) : List String → Prop
  | [] => True
  | id :: before => (∀ child ∈ childrenIn index id, child ∈ before) ∧ Settled index before

/-- Ids each of which stands directly below the one before it. -/
def Descending (index : Table DecisionLinks) (path : List String) : Prop :=
  path.IsChain fun above below => below ∈ childrenIn index above

/-- A path from parent to child that comes back to where it began. -/
def Circular (index : Table DecisionLinks) (path : List String) : Prop :=
  ∃ id between, path = id :: between ++ [id] ∧ Descending index path

/-! ### One visit, told by the path to it -/

/-- The ids that are finished after a visit to an id, given the path that leads to it and the ids that were finished before. -/
def descend (index : Table DecisionLinks) (path done : List String) (id : String) :
    Except (List String) (List String) :=
  if done.contains id then .ok done
  else if path.contains id then .error ((path ++ [id]).dropWhile (· ≠ id))
  else
    match _hlinks : index.get? id with
    | none => .ok (id :: done)
    | some links =>
      (links.children.foldlM (fun done child => descend index (path ++ [id]) done child) done).map (id :: ·)
termination_by (index.namesApartFrom path).length
decreasing_by
  have hsame : index.namesApartFrom (path ++ [id]) = index.namesApartFrom (id :: path) :=
    List.filter_congr fun other _ => by simp [Bool.or_comm]
  rw [hsame]
  exact Table.length_namesApartFrom_lt _hlinks (mt List.contains_iff_mem.2 ‹_›)

theorem descend_eq (path done : List String) (id : String) :
    descend index path done id =
      if id ∈ done then .ok done
      else if id ∈ path then .error ((path ++ [id]).dropWhile (· ≠ id))
      else ((childrenIn index id).foldlM (descend index (path ++ [id])) done).map (id :: ·) := by
  rw [descend, childrenIn]
  simp only [List.contains_iff_mem]
  split
  · rfl
  · split
    · rfl
    · split
      · simp [*, Except.map, pure, Except.pure]
      · simp [*]

/-- Induction over the visits of a walk: an id that is neither finished nor on the path is visited by way of its children. -/
theorem descend_induction (index : Table DecisionLinks) {motive : List String → List String → String → Prop}
    (finished : ∀ path done id, id ∈ done → motive path done id)
    (met : ∀ path done id, id ∉ done → id ∈ path → motive path done id)
    (fresh : ∀ path done id, id ∉ done → id ∉ path →
      (∀ child ∈ childrenIn index id, ∀ done, motive (path ++ [id]) done child) → motive path done id)
    (path done : List String) (id : String) : motive path done id := by
  induction path, done, id using descend.induct index with
  | case1 path done id hdone => exact finished path done id (List.contains_iff_mem.1 hdone)
  | case2 path done id hdone hpath =>
    exact met path done id (mt List.contains_iff_mem.2 hdone) (List.contains_iff_mem.1 hpath)
  | case3 path done id hdone hpath hmissing =>
    refine fresh path done id (mt List.contains_iff_mem.2 hdone) (mt List.contains_iff_mem.2 hpath) ?_
    simp [childrenIn, hmissing]
  | case4 path done id hdone hpath links hlinks ih =>
    exact fresh path done id (mt List.contains_iff_mem.2 hdone) (mt List.contains_iff_mem.2 hpath)
      fun child _ done => ih done child

end DecisionTree

/-! ### The stack of a walk -/

namespace DecisionWalk

open DecisionTree

theorem foldlM_visit (walk : DecisionWalk) (ids : List String) :
    ids.foldlM (visit index) walk =
      (ids.foldlM (fun (here : Inside walk.inProgress) child =>
        (visitInside index here.val child).map fun next => ⟨next.val, next.property.trans here.property⟩)
        (⟨walk, rfl⟩ : Inside walk.inProgress)).map Subtype.val := by
  refine foldlM_embed Subtype.val (fun child _ here => ?_) (⟨walk, rfl⟩ : Inside walk.inProgress)
  rw [visit, Except.map_map]

/-- A visit goes down to its id, over the children of it, and comes back up. -/
theorem visit_eq (walk : DecisionWalk) (id : String) :
    visit index walk id =
      if id ∈ walk.done then .ok walk
      else (walk.enter id).bind fun entered =>
        ((childrenIn index id).foldlM (visit index) entered).map fun below => below.leave id := by
  rw [visit, visitInside, childrenIn]
  simp only [List.contains_iff_mem]
  split
  · rfl
  · split
    next cycle hentered =>
      rw [hentered]
      rfl
    next entered hentered =>
      conv_rhs => rw [hentered]
      split
      next hlinks =>
        simp only [hlinks]
        rfl
      next links hlinks =>
        simp only [hlinks]
        rw [Except.bind, foldlM_visit, Except.map_map, Except.map_map]

/-- A walk that is inside of the ids on its path, the last one first. -/
def onPath (path done : List String) : DecisionWalk :=
  ⟨done, path.reverse, path⟩

theorem enter_onPath_eq_error {path : List String} {id : String} (hmet : id ∈ path) (done : List String) :
    (onPath path done).enter id = .error ((path ++ [id]).dropWhile (· ≠ id)) := by
  have hinside : path.reverse.contains id = true := List.contains_iff_mem.2 (List.mem_reverse.2 hmet)
  simp only [onPath, enter, hinside, if_true, drop_idxOf?_eq_dropWhile (List.mem_append_left [id] hmet)]

theorem enter_onPath_eq_ok {path : List String} {id : String} (hoff : id ∉ path) (done : List String) :
    (onPath path done).enter id = .ok (onPath (path ++ [id]) done) := by
  have houtside : path.reverse.contains id = false := by simp [hoff]
  simp only [onPath, enter, houtside, Bool.false_eq_true, if_false, List.reverse_append, List.reverse_singleton,
    List.singleton_append]

theorem leave_onPath (path done : List String) (id : String) :
    (onPath (path ++ [id]) done).leave id = onPath path (id :: done) := by
  simp [onPath, leave]

/-- A visit of a walk that is inside of the ids on its path goes as the path says. When it comes back, the stack and the ids that the walk is inside of are what they were. -/
theorem visit_onPath (path done : List String) (id : String) :
    visit index (onPath path done) id = (descend index path done id).map (onPath path) := by
  induction path, done, id using descend_induction index with
  | finished path done id hfinished =>
    rw [visit_eq, descend_eq, if_pos hfinished, onPath, if_pos hfinished]
    rfl
  | met path done id hnew hmet =>
    rw [visit_eq, descend_eq, if_neg hnew, if_pos hmet, enter_onPath_eq_error hmet, onPath, if_neg hnew]
    rfl
  | fresh path done id hnew hoff ih =>
    rw [visit_eq, descend_eq, if_neg hnew, if_neg hoff, enter_onPath_eq_ok hoff, onPath, if_neg hnew]
    have hbelow : (childrenIn index id).foldlM (visit index) (onPath (path ++ [id]) done) =
        ((childrenIn index id).foldlM (descend index (path ++ [id])) done).map (onPath (path ++ [id])) :=
      foldlM_embed (onPath (path ++ [id])) ih done
    rw [Except.bind, hbelow]
    cases (childrenIn index id).foldlM (descend index (path ++ [id])) done with
    | error cycle => rfl
    | ok below => exact congrArg Except.ok (leave_onPath path below id)

/-- Between two starts the walk is inside of nothing, so each of them begins on an empty path. -/
theorem visitFrom_onPath (done : List String) (start : String) :
    visitFrom index (onPath [] done) start = (descend index [] done start).map (onPath []) := by
  rw [visitFrom]
  by_cases hdone : start ∈ done
  · rw [descend_eq, if_pos hdone, onPath, if_pos (List.contains_iff_mem.2 hdone)]
    rfl
  · rw [onPath, if_neg (mt List.contains_iff_mem.1 hdone)]
    exact visit_onPath [] done start

end DecisionWalk

namespace DecisionTree

/-! ### Walks that come to their end -/

/-- A walk over ids has finished each of them at its end, and what was finished before. -/
theorem foldlM_eq_ok {walk : List String → String → Except (List String) (List String)} {ids done result : List String}
    (hwalk : ∀ id ∈ ids, ∀ done result, walk done id = .ok result → Settled index done →
      Settled index result ∧ id ∈ result ∧ done ⊆ result)
    (h : ids.foldlM walk done = .ok result) (hdone : Settled index done) :
    Settled index result ∧ (∀ id ∈ ids, id ∈ result) ∧ done ⊆ result := by
  induction ids generalizing done with
  | nil =>
    cases h
    exact ⟨hdone, by simp, List.Subset.refl _⟩
  | cons first rest ih =>
    rw [List.foldlM_cons] at h
    obtain ⟨middle, hfirst, hrest⟩ := Except.bind_eq_ok_iff.1 h
    obtain ⟨hmiddle, hmem, hkept⟩ := hwalk first List.mem_cons_self done middle hfirst hdone
    obtain ⟨hresult, hall, hgrown⟩ := ih (fun id hid => hwalk id (List.mem_cons_of_mem _ hid)) hrest hmiddle
    refine ⟨hresult, fun id hid => ?_, List.Subset.trans hkept hgrown⟩
    rcases List.mem_cons.1 hid with rfl | hid
    · exact hgrown hmem
    · exact hall id hid

/-- A visit that comes to its end has finished its id, after the children of it. -/
theorem descend_eq_ok {path done result : List String} {id : String} (h : descend index path done id = .ok result)
    (hdone : Settled index done) : Settled index result ∧ id ∈ result ∧ done ⊆ result := by
  induction path, done, id using descend_induction index generalizing result with
  | finished path done id hfinished =>
    rw [descend_eq, if_pos hfinished] at h
    cases h
    exact ⟨hdone, hfinished, List.Subset.refl _⟩
  | met path done id hnew hmet =>
    rw [descend_eq, if_neg hnew, if_pos hmet] at h
    cases h
  | fresh path done id hnew hoff ih =>
    rw [descend_eq, if_neg hnew, if_neg hoff] at h
    obtain ⟨below, hbelow, rfl⟩ := Except.map_eq_ok_iff.1 h
    obtain ⟨hsettled, hchildren, hkept⟩ :=
      foldlM_eq_ok (fun child hchild done result => ih child hchild done) hbelow hdone
    exact ⟨⟨hchildren, hsettled⟩, List.mem_cons_self, List.Subset.trans hkept (List.subset_cons_self _ _)⟩

/-! ### Walks that are broken off -/

theorem exists_of_foldlM_eq_error {walk : List String → String → Except (List String) (List String)}
    {ids done cycle : List String} (h : ids.foldlM walk done = .error cycle) :
    ∃ id ∈ ids, ∃ done, walk done id = .error cycle := by
  induction ids generalizing done with
  | nil => cases h
  | cons first rest ih =>
    rw [List.foldlM_cons] at h
    cases hfirst : walk done first with
    | error found =>
      rw [hfirst] at h
      cases h
      exact ⟨first, List.mem_cons_self, done, hfirst⟩
    | ok middle =>
      rw [hfirst] at h
      obtain ⟨id, hid, hwalk⟩ := ih h
      exact ⟨id, List.mem_cons_of_mem _ hid, hwalk⟩

/-- Where a descending path meets one of its own ids, it closes a cycle. The path keeps ids apart, so none of them comes twice before the cycle is closed. -/
theorem circular_of_mem {path : List String} {id : String} (hmet : id ∈ path) (h : Descending index (path ++ [id]))
    (hdistinct : path.Nodup) :
    Circular index ((path ++ [id]).dropWhile (· ≠ id)) ∧ ((path ++ [id]).dropWhile (· ≠ id)).dropLast.Nodup := by
  obtain ⟨before, between, rfl, hbefore⟩ := List.eq_append_cons_of_mem hmet
  have hdrop : ((before ++ id :: between) ++ [id]).dropWhile (· ≠ id) = id :: between ++ [id] := by
    rw [List.append_assoc, List.dropWhile_append_of_pos, List.cons_append, List.dropWhile_cons_of_neg (by simp)]
    intro other hother
    simp only [ne_eq, decide_not, Bool.not_eq_true', decide_eq_false_iff_not]
    rintro rfl
    exact hbefore hother
  refine ⟨⟨id, between, hdrop, h.suffix (List.dropWhile_suffix _)⟩, ?_⟩
  rw [hdrop, List.dropLast_concat]
  exact hdistinct.sublist (List.sublist_append_right before (id :: between))

/-- A visit is broken off only by a cycle, which goes round once. -/
theorem descend_eq_error {path done cycle : List String} {id : String} (h : descend index path done id = .error cycle)
    (hpath : Descending index (path ++ [id])) (hdistinct : path.Nodup) :
    Circular index cycle ∧ cycle.dropLast.Nodup := by
  induction path, done, id using descend_induction index with
  | finished path done id hfinished =>
    rw [descend_eq, if_pos hfinished] at h
    cases h
  | met path done id hnew hmet =>
    rw [descend_eq, if_neg hnew, if_pos hmet] at h
    cases h
    exact circular_of_mem hmet hpath hdistinct
  | fresh path done id hnew hoff ih =>
    rw [descend_eq, if_neg hnew, if_neg hoff] at h
    cases hwalk : (childrenIn index id).foldlM (descend index (path ++ [id])) done with
    | ok below =>
      rw [hwalk] at h
      cases h
    | error found =>
      rw [hwalk] at h
      cases h
      obtain ⟨child, hchild, done, hvisit⟩ := exists_of_foldlM_eq_error hwalk
      -- the path to the child is a longer one of the same kind: the id was not on it yet
      have hdown : Descending index (path ++ [id] ++ [child]) :=
        List.isChain_append.2 ⟨hpath, List.isChain_singleton _, by simpa using hchild⟩
      have hapart : (path ++ [id]).Nodup := by
        rw [List.nodup_append]
        refine ⟨hdistinct, by simp, fun other hother own hown => ?_⟩
        rw [List.mem_singleton.1 hown]
        rintro rfl
        exact hoff hother
      exact ih child hchild done hvisit hdown hapart

end DecisionTree

end GuardedPlan
