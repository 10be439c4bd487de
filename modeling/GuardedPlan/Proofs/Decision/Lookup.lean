import GuardedPlan.Guardrail
import GuardedPlan.Proofs.Base.Tables
import GuardedPlan.Proofs.Decision.Forest
import Mathlib.Data.List.Nodup

/-!
# Looking up decisions

An id is looked up in a forest by its table of records, where the last record that was put in under the id would stay, and in a list from its front, where the first of them is found. The two ways agree because the pass that fills the table never puts in a second record under one id.
-/

namespace GuardedPlan

namespace Decision

variable {records : List Decision}

theorem find?_eq_some_iff (hdistinct : (records.map Decision.id).Nodup) {id : String} {record : Decision} :
    find? records id = some record ↔ record ∈ records ∧ record.id = id := by
  constructor
  · intro hfind
    exact ⟨List.mem_of_find?_eq_some hfind, by simpa using List.find?_some hfind⟩
  · rintro ⟨hrecord, rfl⟩
    cases hfind : find? records record.id with
    | none => simpa using List.find?_eq_none.1 hfind record hrecord
    | some other =>
      have hid : other.id = record.id := by simpa using List.find?_some hfind
      rw [List.inj_on_of_nodup_map hdistinct (List.mem_of_find?_eq_some hfind) hrecord hid]

theorem Names.eq (hdistinct : (records.map Decision.id).Nodup) {id parent other : String}
    (hparent : Names records id parent) (hother : Names records id other) : other = parent := by
  obtain ⟨record, hrecord, rfl, hnamed⟩ := hparent
  obtain ⟨own, hown, hid, hagain⟩ := hother
  cases List.inj_on_of_nodup_map hdistinct hown hrecord hid
  exact Option.some.inj (hagain.symm.trans hnamed)

end Decision

/-- Whether or not the records form a forest, an id stands for the first record that has it. -/
theorem Decision.resolve_build (records : List Decision) (id : String) :
    resolve (DecisionTree.build records).toOption records id = find? records id := by
  -- records that form no forest are searched as a list
  cases hbuild : DecisionTree.build records with
  | error fault => rfl
  | ok tree => exact (DecisionTree.holds_of_build hbuild).1.records id

/-- In decisions that form a forest every id is found in the table of the forest exactly as in the list, so the pass over decisions finds the same, whatever spec and steps it looks at, with the forest and without it. -/
theorem DecisionTree.lookup_of_build {records : List Decision} {tree : DecisionTree} (h : build records = .ok tree) :
    (∀ id, Decision.resolve (some tree) records id = Decision.find? records id) ∧
      ∀ (spec : Spec) (steps : List Step),
        Guardrail.decisions spec (Decision.resolve (some tree) records) steps =
          Guardrail.decisions spec (Decision.resolve none records) steps := by
  have hsame : Decision.resolve (some tree) records = Decision.find? records := by
    funext id
    exact (holds_of_build h).1.records id
  exact ⟨congrFun hsame, fun spec steps => congrArg (Guardrail.decisions spec · steps) hsame⟩

namespace Sample

def decision (id : String) (parent : Option String) : Decision :=
  ⟨id, "q", "a", "r", .final, .zero false, [], parent⟩

/-- Two roots, with two generations below one of them; a child stands before its parent in the list. -/
def family : List Decision :=
  [decision "c" (some "b"), decision "a" none, decision "b" (some "a"), decision "d" none, decision "e" (some "a")]

/-- The links of the family, by id. -/
def familyLinks : List (String × DecisionLinks) :=
  [("a", ⟨none, ["b", "e"]⟩), ("b", ⟨some "a", ["c"]⟩), ("c", ⟨some "b", []⟩), ("d", ⟨none, []⟩),
    ("e", ⟨some "a", []⟩)]

theorem build_family : ∃ tree, DecisionTree.build family = .ok tree ∧ tree.roots = ["a", "d"] ∧
    tree.index.entries = familyLinks := by
  have hshown : (DecisionTree.build family).toOption.map (fun tree => (tree.roots, tree.index.entries)) =
      some (["a", "d"], familyLinks) := by
    decide +kernel
  obtain ⟨tree, htree, hparts⟩ := Option.map_eq_some_iff.1 hshown
  obtain ⟨hroots, hindex⟩ := Prod.mk.inj hparts
  exact ⟨tree, Except.toOption_eq_some_iff.1 htree, hroots, hindex⟩

end Sample

theorem DecisionTree.lookup_of_build_family :
    ∃ tree, build Sample.family = .ok tree ∧
      (∀ id, Decision.resolve (some tree) Sample.family id = Decision.find? Sample.family id) ∧
      ∀ (spec : Spec) (steps : List Step),
        Guardrail.decisions spec (Decision.resolve (some tree) Sample.family) steps =
          Guardrail.decisions spec (Decision.resolve none Sample.family) steps := by
  obtain ⟨tree, hbuild, -⟩ := Sample.build_family
  exact ⟨tree, hbuild, lookup_of_build hbuild⟩

end GuardedPlan
