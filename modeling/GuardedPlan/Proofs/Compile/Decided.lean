import GuardedPlan.Proofs.Compile.Emission
import GuardedPlan.Proofs.Decision.Lookup

/-!
# Decisions behind a plan

An emitted plan rests on decisions that are settled. Two passes look at the decisions of a spec: the one that builds their forest says nothing of repeated ids, and the one over references reports those but knows nothing of parents. Only together do they leave a forest, in which every id stands for one record and it does not matter which of the two the references were looked up in.
-/

namespace GuardedPlan

/-- A decision with an id is final. -/
def Decision.Settles (records : List Decision) (id : String) : Prop :=
  ∃ record ∈ records, record.id = id ∧ record.status = .final

namespace Guardrail

theorem duplicates_eq_nil_iff {seen : List String} {index : Nat} {records : List Decision} :
    duplicates seen index records = [] ↔
      (records.map Decision.id).Nodup ∧ ∀ id ∈ records.map Decision.id, id ∉ seen := by
  induction records generalizing seen index with
  | nil => simp [duplicates]
  | cons record rest ih =>
    rw [duplicates, List.append_eq_nil_iff, ih, List.map_cons, List.nodup_cons, List.forall_mem_cons]
    by_cases hseen : record.id ∈ seen
    · simp [hseen]
    · simp only [List.contains_iff_mem, hseen, if_false, List.mem_cons, not_or, true_and, not_false_eq_true]
      constructor
      · rintro ⟨hdistinct, hnew⟩
        exact ⟨⟨fun hmem => (hnew record.id hmem).1 rfl, hdistinct⟩, fun id hid => (hnew id hid).2⟩
      · rintro ⟨⟨hfirst, hdistinct⟩, hnew⟩
        exact ⟨hdistinct, fun id hid => ⟨fun heq => hfirst (heq ▸ hid), hnew id hid⟩⟩

theorem assumptionFindings_eq_nil_iff {resolve : String → Option Decision} {index : Nat} {assumption : Assumption} :
    assumptionFindings resolve index assumption = [] ↔
      assumption.status = .verified ∧ ∃ record, resolve assumption.id = some record ∧ record.status = .final := by
  rw [assumptionFindings, List.append_eq_nil_iff]
  cases resolve assumption.id <;> simp [Decision.isFinal]

theorem referenceFindings_eq_nil_iff {resolve : String → Option Decision} {index : Nat} {step id : String} :
    referenceFindings resolve index step id = [] ↔ ∃ record, resolve id = some record ∧ record.status = .final := by
  rw [referenceFindings]
  cases resolve id <;> simp [Decision.isFinal]

theorem decisions_eq_nil_iff (spec : Spec) (resolve : String → Option Decision) (steps : List Step) :
    decisions spec resolve steps = [] ↔ (spec.decisions.map Decision.id).Nodup ∧
      (∀ assumption ∈ spec.assumptions, assumption.status = .verified ∧
        ∃ record, resolve assumption.id = some record ∧ record.status = .final) ∧
      ∀ step ∈ steps, ∀ id ∈ step.decisions, ∃ record, resolve id = some record ∧ record.status = .final := by
  rw [decisions, List.append_eq_nil_iff, List.append_eq_nil_iff, duplicates_eq_nil_iff,
    flatMap_zipIdx_eq_nil_iff fun assumption index => assumptionFindings_eq_nil_iff]
  rw [flatMap_zipIdx_eq_nil_iff (P := fun step => ∀ id ∈ step.decisions,
    ∃ record, resolve id = some record ∧ record.status = .final) fun step index => by
      simp only [List.flatMap_eq_nil_iff, referenceFindings_eq_nil_iff]]
  simp [and_assoc]

end Guardrail

namespace Compilation

/-- With distinct ids the only faults that decisions can have are the ones that are reported of their forest. -/
theorem isForest_of_forestFindings_eq_nil {spec : Spec} (hdistinct : (spec.decisions.map Decision.id).Nodup)
    (h : forestFindings spec = []) : Decision.IsForest spec.decisions := by
  rcases DecisionTree.build_cases spec.decisions with ⟨id, -, hrepeated⟩ | ⟨id, parent, hbuild, -⟩ |
    ⟨path, hbuild, -⟩ | ⟨tree, -, -, hforest⟩
  · exact absurd hdistinct hrepeated.not_nodup
  · simp [forestFindings, hbuild, Guardrail.treeFinding?] at h
  · simp [forestFindings, hbuild, Guardrail.treeFinding?] at h
  · exact hforest

/-- An id stands for a record of the spec, whether it is looked up in the forest or in the list. -/
theorem settles_of_decisionOf {spec : Spec} {id : String} {record : Decision} (h : decisionOf spec id = some record)
    (hfinal : record.status = .final) : Decision.Settles spec.decisions id := by
  have hfind : Decision.find? spec.decisions id = some record := by
    rw [← Decision.resolve_build]
    exact h
  exact ⟨record, List.mem_of_find?_eq_some hfind, by simpa using List.find?_some hfind, hfinal⟩

end Compilation

open Compilation

/-- The decisions of a spec whose plan is emitted form a forest; what its steps refer to is final, and what it assumes is verified and final. -/
theorem decided_of_compile {text : String} {lookup : ManifestLookup} {plan : Plan}
    (hcompile : (compile text lookup).plan = some plan) :
    ∃ spec, Spec.parse text = .ok spec ∧ Decision.IsForest spec.decisions ∧
      (∀ step ∈ plan.steps, ∀ id ∈ step.decisions, Decision.Settles spec.decisions id) ∧
      ∀ assumption ∈ spec.assumptions, assumption.status = .verified ∧
        Decision.Settles spec.decisions assumption.id := by
  obtain ⟨spec, manifest, policy, hspec, -, -, hsilent, rfl⟩ := compile_plan_eq_some.1 hcompile
  obtain ⟨hdistinct, hassumptions, hreferences⟩ := (Guardrail.decisions_eq_nil_iff _ _ _).1 hsilent.decisions
  refine ⟨spec, hspec, isForest_of_forestFindings_eq_nil hdistinct hsilent.forest, fun step hstep id hid => ?_,
    fun assumption hassumption => ?_⟩
  · obtain ⟨record, hrecord, hfinal⟩ := hreferences step hstep id hid
    exact settles_of_decisionOf hrecord hfinal
  · obtain ⟨hverified, record, hrecord, hfinal⟩ := hassumptions assumption hassumption
    exact ⟨hverified, settles_of_decisionOf hrecord hfinal⟩

namespace Sample

/-- A spec with a decision below another one, on which a step and an assumption rest. -/
def decidedText : String :=
  "version: 2\ntarget: t\nproject:\n  name: n\nsteps:\n- id: s\n  decisions: [D]\n" ++
    "assumptions:\n- id: D\n  text: x\n  status: verified\n" ++
    "decisions:\n- id: D\n  question: q\n  answer: a\n  rationale: r\n  status: final\n  confidence: 1\n" ++
    "  parent: E\n- id: E\n  question: q\n  answer: a\n  rationale: r\n  status: provisional\n  confidence: 1\n"

theorem exists_plan_of_decidedText : ∃ plan, (compile decidedText lookup).plan = some plan :=
  Option.isSome_iff_exists.1 (by decide +kernel)

end Sample

theorem decided_of_compile_sample :
    ∃ plan, (compile Sample.decidedText Sample.lookup).plan = some plan ∧
      ∃ spec, Spec.parse Sample.decidedText = .ok spec ∧ Decision.IsForest spec.decisions ∧
        (∀ step ∈ plan.steps, ∀ id ∈ step.decisions, Decision.Settles spec.decisions id) ∧
        ∀ assumption ∈ spec.assumptions, assumption.status = .verified ∧
          Decision.Settles spec.decisions assumption.id := by
  obtain ⟨plan, hplan⟩ := Sample.exists_plan_of_decidedText
  exact ⟨plan, hplan, decided_of_compile hplan⟩

end GuardedPlan
