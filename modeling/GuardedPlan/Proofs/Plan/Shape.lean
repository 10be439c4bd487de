import GuardedPlan.Document
import GuardedPlan.Proofs.Schema.Union

/-!
# Plans that meet the schema of plans

The published form of a plan always has the fields, the tags and the kinds of values that the schema asks for. What can go wrong is in the values: a name that is empty, a hash of another shape, and the one number of a plan, the threshold of a fuzzy check.
-/

namespace GuardedPlan

open Schema

namespace Op

/-- The alternatives of an operation. -/
def alternatives : List Alternative :=
  [(["RUN"], [("cmd", text)]), (["WRITE_FILE", "APPEND_FILE"], [("path", text), ("content", text)]),
    (["WRITE_TEMPLATE"], [("path", text), ("template", text), ("vars", [.members text, .kinds [.object]])])]

theorem schema_eq : Schema.op =
    [.oneOf (alternatives.map fun row => tagged "op" row.1 row.2), .required ["op"], .kinds [.object]] := rfl

theorem names_members (op : Op) : ("op" :: op.members.map Prod.fst).Nodup := by
  cases op <;> simp [members]

theorem meets_encode (op : Op) : Meets Schema.op op.encode.canonical := by
  rw [schema_eq, encode, Json.canonical_object,
    meets_union_canonical_iff op.names_members (by decide) (by decide)]
  cases op with
  | run command => simp [alternatives, tag, members, Json.lookup, meets_text_iff, -Prod.forall]
  | writeFile path content => simp [alternatives, tag, members, Json.lookup, meets_text_iff, -Prod.forall]
  | appendFile path content => simp [alternatives, tag, members, Json.lookup, meets_text_iff, -Prod.forall]
  | writeTemplate path template vars =>
    have hvars : Meets [.members text, .kinds [.object]] (Json.object (vars.map Json.string).entries) := by
      rw [meets_members_iff]
      refine ⟨_, rfl, fun field hfield => ?_⟩
      obtain ⟨entry, _, rfl⟩ := List.mem_map.1 hfield
      exact (meets_text_iff _).2 ⟨entry.2, rfl⟩
    simp [alternatives, tag, members, Json.lookup, meets_text_iff, hvars, -Prod.forall]

end Op

namespace Check

def alternatives : List Alternative :=
  [(["file.exists", "artifact.exists"], [("path", text)]),
    (["file.contains", "doc.contains"], [("path", text), ("text", text)]),
    (["route.exists"], [("dir", text), ("route", text)]), (["cmd.ok"], [("cmd", text)]),
    (["git.trackedOnly"], [("dir", text), ("glob", text), ("allow", listOf text)]),
    (["doc.section"], [("path", text), ("title", text)]),
    (["doc.contains_fuzzy"], [("path", text), ("text", text), ("threshold", ratio), ("gate", boolean)])]

theorem schema_eq : Schema.check =
    [.oneOf (alternatives.map fun row => tagged "kind" row.1 row.2), .required ["kind"], .kinds [.object]] := rfl

theorem names_members (check : Check) : ("kind" :: check.members.map Prod.fst).Nodup := by
  cases check <;> simp [members]

/-- The threshold of a fuzzy check is a number of the unit interval. -/
def Bounded : Check → Prop
  | docResembles _ _ threshold _ => threshold.InUnit
  | _ => True

theorem meets_strings (texts : List String) : Meets (listOf text) (Json.strings texts) := by
  rw [meets_listOf_iff]
  refine ⟨_, rfl, fun entry hentry => ?_⟩
  obtain ⟨content, _, rfl⟩ := List.mem_map.1 hentry
  exact (meets_text_iff _).2 ⟨content, rfl⟩

theorem meets_encode_iff (check : Check) : Meets Schema.check check.encode.canonical ↔ check.Bounded := by
  rw [schema_eq, encode, Json.canonical_object,
    meets_union_canonical_iff check.names_members (by decide) (by decide)]
  cases check with
  | trackedOnly directory glob allow =>
    simp [alternatives, kind, members, Bounded, Json.lookup, meets_text_iff, meets_strings, -Prod.forall]
  | docResembles path text threshold gate =>
    simp [alternatives, kind, members, Bounded, Json.lookup, meets_text_iff, meets_ratio_float_iff,
      meets_boolean_iff, -Prod.forall]
  | _ => simp [alternatives, kind, members, Bounded, Json.lookup, meets_text_iff, -Prod.forall]

end Check

namespace Step

theorem meets_encode_iff (step : Step) :
    Meets Schema.planStep step.encode.canonical ↔ step.id ≠ "" ∧ ∀ check ∈ step.checks, check.Bounded := by
  have hops : Meets (listOf Schema.op) (Json.array (step.ops.map Op.encode)).canonical := by
    rw [Json.canonical_array, meets_listOf_array_iff]
    simpa using fun op _ => Op.meets_encode op
  have hchecks : Meets (listOf Schema.check) (Json.array (step.checks.map Check.encode)).canonical ↔
      ∀ check ∈ step.checks, check.Bounded := by
    rw [Json.canonical_array, meets_listOf_array_iff]
    simp [Check.meets_encode_iff]
  rw [Schema.planStep, encode, Json.canonical_object, meets_record_canonical_iff (by simp)]
  simp [Json.lookup, meets_someText_iff, Check.meets_strings, hops, hchecks, -Json.canonical_array]

end Step

namespace Plan

/-- What the schema of plans asks for beyond the fields that every plan has. -/
structure WellFormed (plan : Plan) : Prop where
  lang : plan.lang = language
  target : plan.target ≠ ""
  version : plan.presetVersion ≠ ""
  hash : TextPattern.specHash.accepts plan.specHash.toList = true
  ids : ∀ step ∈ plan.steps, step.id ≠ ""
  bounded : ∀ step ∈ plan.steps, ∀ check ∈ step.checks, check.Bounded

theorem meets_encode_iff (plan : Plan) : Meets Schema.plan plan.encode.canonical ↔ plan.WellFormed := by
  have hsteps : Meets (listOf Schema.planStep) (Json.array (plan.steps.map Step.encode)).canonical ↔
      ∀ step ∈ plan.steps, step.id ≠ "" ∧ ∀ check ∈ step.checks, check.Bounded := by
    rw [Json.canonical_array, meets_listOf_array_iff]
    simp [Step.meets_encode_iff]
  have hlang : Meets [.constant (.text "webspec.plan/v1")] (.string plan.lang) ↔ plan.lang = language := by
    rw [meets_singleton_iff, ruleIssues_constant_eq_nil_iff]
    simp [Constant.accepts, language]
  have hfields : Meets Schema.plan plan.encode.canonical ↔ plan.lang = language ∧ plan.target ≠ "" ∧
      plan.presetVersion ≠ "" ∧ TextPattern.specHash.accepts plan.specHash.toList = true ∧
      ∀ step ∈ plan.steps, step.id ≠ "" ∧ ∀ check ∈ step.checks, check.Bounded := by
    rw [Schema.plan, encode, Json.canonical_object, meets_record_canonical_iff (by simp)]
    simp [Json.lookup, meets_someText_iff, meets_shaped_iff, hsteps, hlang, -Json.canonical_array]
  rw [hfields]
  constructor
  · rintro ⟨hlang, htarget, hversion, hhash, hsteps⟩
    exact ⟨hlang, htarget, hversion, hhash, fun step hstep => (hsteps step hstep).1, fun step hstep => (hsteps step hstep).2⟩
  · rintro ⟨hlang, htarget, hversion, hhash, hids, hbounded⟩
    exact ⟨hlang, htarget, hversion, hhash, fun step hstep => ⟨hids step hstep, hbounded step hstep⟩⟩

end Plan

end GuardedPlan
