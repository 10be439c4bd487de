import GuardedPlan.Proofs.Decision.Lookup

/-!
# The cycle that is reported

What is said of decisions that lead back to themselves. A walk stands on a path from parent to child and breaks off where the next child is on that path; what it reports is the end of the path from there on. The path never holds an id twice, so the ids that are reported go round once, however long the way to them was and whatever else hangs off it, and every one of them is the only parent that the next one has.
-/

namespace GuardedPlan

namespace Decision

variable {records : List Decision}

/-- Ids that go down from parent to child and come back to the first of them without meeting any other twice. -/
structure IsSimpleCycle (records : List Decision) (path : List String) : Prop where
  two_le_length : 2 ≤ path.length
  closed : path.head? = path.getLast?
  apart : path.dropLast.Nodup
  declared : ∀ id ∈ path, id ∈ records.map Decision.id
  linked : path.IsChain fun above below => ∀ parent, Names records below parent ↔ parent = above

theorem mem_ids_of_isChain {first : String} {rest : List String}
    (h : (first :: rest).IsChain fun above below => Names records below above) :
    ∀ id ∈ rest, id ∈ records.map Decision.id := by
  induction rest generalizing first with
  | nil => simp
  | cons next others ih =>
    obtain ⟨⟨record, hrecord, hid, -⟩, hothers⟩ := List.isChain_cons_cons.1 h
    rw [List.forall_mem_cons]
    exact ⟨List.mem_map.2 ⟨record, hrecord, hid⟩, ih hothers⟩

/-- With distinct ids, a cycle that goes round once is a simple one. -/
theorem IsCycle.isSimpleCycle {path : List String} (h : IsCycle records path)
    (hdistinct : (records.map Decision.id).Nodup) (hapart : path.dropLast.Nodup) : IsSimpleCycle records path := by
  obtain ⟨id, between, rfl, hpath⟩ := h
  have hbelow : ∀ other ∈ between ++ [id], other ∈ records.map Decision.id := mem_ids_of_isChain hpath
  have hlast : (id :: between ++ [id]).getLast? = some id := List.getLast?_concat
  refine ⟨by simp, hlast.symm, hapart, ?_, hpath.imp fun above below hnames parent => ?_⟩
  · -- the first id is the last one too, and so stands below another
    intro other hother
    rcases List.mem_cons.1 hother with rfl | hother
    · exact hbelow other (by simp)
    · exact hbelow other hother
  · exact ⟨hnames.eq hdistinct, fun hparent => hparent ▸ hnames⟩

end Decision

open Decision

/-- The path with which building fails for a cycle is a simple cycle of the records. -/
theorem DecisionTree.isSimpleCycle_of_build {records : List Decision} {path : List String}
    (h : build records = .error (.cycle path)) : IsSimpleCycle records path := by
  rcases build_cases records with ⟨id, hbuild, -⟩ | ⟨id, parent, hbuild, -⟩ |
    ⟨found, hbuild, hdistinct, -, hcycle, hapart⟩ | ⟨tree, hbuild, -⟩
  · simp [hbuild] at h
  · simp [hbuild] at h
  · rw [hbuild] at h
    cases h
    exact hcycle.isSimpleCycle hdistinct hapart
  · simp [hbuild] at h

namespace Sample

/-- Three decisions that stand in a ring, below one of which two more hang, beside a root with a child of its own. -/
def ring : List Decision :=
  [decision "r" none, decision "a" (some "c"), decision "d" (some "b"), decision "b" (some "a"), decision "s" (some "r"),
    decision "c" (some "b"), decision "e" (some "d")]

theorem build_ring : DecisionTree.build ring = .error (.cycle ["a", "b", "c", "a"]) := by
  decide +kernel

end Sample

theorem DecisionTree.isSimpleCycle_of_build_ring :
    build Sample.ring = .error (.cycle ["a", "b", "c", "a"]) ∧ IsSimpleCycle Sample.ring ["a", "b", "c", "a"] :=
  ⟨Sample.build_ring, isSimpleCycle_of_build Sample.build_ring⟩

end GuardedPlan
