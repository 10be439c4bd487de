import GuardedPlan.Digest.Sha256
import GuardedPlan.Document
import GuardedPlan.Guardrail
import GuardedPlan.Plan.Build

/-!
# Compiling a spec

Reading the spec, finding the manifest of its target and reading the globs of the manifest each stop the compilation with one finding. Everything after that runs to its end, so that one compilation reports every defect; a plan is emitted when none of the findings is an error.
-/

namespace GuardedPlan

/-- A way to look up the manifest of a target: nothing for an unknown target, an error for one that cannot be read. -/
abbrev ManifestLookup := String → Except String (Option Json)

namespace Manifest

def resolve (lookup : ManifestLookup) (target : String) : Except Diagnostic Manifest :=
  match lookup target with
  | .ok (some raw) => ofJson target raw
  | .ok none =>
    .error (((⟨.unknownTarget, "unknown target '" ++ target ++ "'", none, none⟩ : Diagnostic).located
      "target").advising "check the registry directory for a matching target")
  | .error fault =>
    .error ⟨.badManifest, "cannot load manifest for target '" ++ target ++ "': " ++ fault, none, none⟩

def writePolicy (manifest : Manifest) : Except BadGlob WritePolicy :=
  WritePolicy.ofEffects manifest.effectsPolicy

end Manifest

/-- What a compilation gives: its findings, and a plan when none of them is an error. -/
structure Compilation where
  diagnostics : List Diagnostic
  plan : Option Plan

namespace Compilation

def stopped (d : Diagnostic) : Compilation :=
  ⟨[d], none⟩

def specHash (text : String) : String :=
  "sha256:" ++ Sha256.hexDigest text

/-- The findings of every pass over the steps built for a spec. -/
def findings (spec : Spec) (manifest : Manifest) (policy : WritePolicy) : List Diagnostic :=
  let draft := spec.draft manifest
  let forest := DecisionTree.build spec.decisions
  let resolve := Decision.resolve forest.toOption spec.decisions
  (match forest with
    | .ok _ => []
    | .error fault => (Guardrail.treeFinding? fault).toList) ++
    draft.diagnostics ++ Guardrail.effects spec policy draft.steps ++
    Guardrail.commands manifest.commands draft.steps ++ Guardrail.proofs draft.steps ++
    Guardrail.claims spec draft.steps ++ Guardrail.decisions spec resolve draft.steps ++
    Guardrail.artifacts spec draft.steps ++ Guardrail.requiresOrder draft.steps

/-- Compiles a spec that was read, for a manifest whose write policy is known. -/
def ofSpec (text : String) (spec : Spec) (manifest : Manifest) (policy : WritePolicy) : Compilation :=
  let found := findings spec manifest policy
  ⟨found,
    if hasErrors found then none
    else
      some { lang := Plan.language, target := spec.target, presetVersion := manifest.presetVersion,
             specHash := specHash text, steps := (spec.draft manifest).steps }⟩

end Compilation

def compile (text : String) (lookup : ManifestLookup) : Compilation :=
  match Spec.parse text with
  | .error d => .stopped d
  | .ok spec =>
    match Manifest.resolve lookup spec.target with
    | .error d => .stopped d
    | .ok manifest =>
      match manifest.writePolicy with
      | .error bad =>
        .stopped ⟨.badManifest,
          "manifest for target '" ++ spec.target ++ "' has an invalid write glob: " ++ bad.message, none, none⟩
      | .ok policy => .ofSpec text spec manifest policy

end GuardedPlan
