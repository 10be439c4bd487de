import GuardedPlan.Diagnostic
import GuardedPlan.Json.Parser
import GuardedPlan.Manifest.Codec
import GuardedPlan.Plan.Codec
import GuardedPlan.Schema.Documents
import GuardedPlan.Text.Blank
import GuardedPlan.Yaml.Value

/-!
# Documents

Structured text is JSON when its first character that is not white space opens an object, and YAML otherwise. A document is checked against the schema of its kind before it is decoded; a spec or a manifest that fails either gives a single finding.
-/

namespace GuardedPlan

namespace Document

inductive Fault where
  | notJson
  | notYaml
deriving DecidableEq, Repr

def Fault.message : Fault → String
  | .notJson => "invalid JSON"
  | .notYaml => "invalid YAML"

def isJson (text : String) : Bool :=
  (Text.trimStart text.toList).head? = some '\x7b'

def parse (text : String) : Except Fault Json :=
  if isJson text then
    match Json.parse? text with
    | some value => .ok value
    | none => .error .notJson
  else
    match Yaml.parse? text with
    | some value => .ok value
    | none => .error .notYaml

end Document

namespace Spec

def schema? : Nat → Option Schema
  | 1 => some Schema.specV1
  | 2 => some Schema.specV2
  | _ => none

def ofJson (value : Json) : Except Diagnostic Spec :=
  match (value.field? "version").bind Json.natural? with
  | none =>
    .error (((⟨.parse, "spec is missing an integer `version`", none, none⟩ : Diagnostic).located "version").advising
      "add `version: 2` to opt into the current shape")
  | some version =>
    match schema? version with
    | none =>
      .error (((⟨.parse, "unsupported spec version " ++ toString version, none, none⟩ : Diagnostic).located
        "version").advising "accepted versions are 1 (legacy) and 2")
    | some schema =>
      match Schema.issues schema value with
      | [] =>
        match decode value with
        | .ok spec => .ok spec
        | .error fault => .error ⟨.parse, "cannot decode spec: " ++ fault.message, none, none⟩
      | issues =>
        .error ⟨.parse, "spec does not match the v" ++ toString version ++ " shape: " ++ Schema.report issues, none, none⟩

def parse (text : String) : Except Diagnostic Spec :=
  match Document.parse text with
  | .ok value => ofJson value
  | .error fault => .error ⟨.parse, "cannot parse spec: " ++ fault.message, none, none⟩

end Spec

namespace Manifest

def ofJson (target : String) (value : Json) : Except Diagnostic Manifest :=
  match Schema.issues Schema.manifest value with
  | [] =>
    match decode value with
    | .ok manifest => .ok manifest
    | .error fault =>
      .error ⟨.badManifest, "cannot decode manifest for target '" ++ target ++ "': " ++ fault.message, none, none⟩
  | issues =>
    .error ⟨.badManifest, "manifest for target '" ++ target ++ "' is invalid: " ++ Schema.report issues, none, none⟩

end Manifest

namespace Plan

inductive Fault where
  | shape (issues : List SchemaIssue)
  | undecodable (fault : DecodeError)
  | language (found : String)

def Fault.message : Fault → String
  | .shape issues => "plan schema validation failed: " ++ Schema.report issues
  | .undecodable fault => "decode plan: " ++ fault.message
  | .language found => "unsupported plan language '" ++ found ++ "' (expected '" ++ Plan.language ++ "')"

def ofJson (value : Json) : Except Fault Plan :=
  match Schema.issues Schema.plan value with
  | [] =>
    match decode value with
    | .ok plan => if plan.lang = language then .ok plan else .error (.language plan.lang)
    | .error fault => .error (.undecodable fault)
  | issues => .error (.shape issues)

end Plan

end GuardedPlan
