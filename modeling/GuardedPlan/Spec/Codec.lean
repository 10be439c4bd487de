import GuardedPlan.Spec.Basic

/-!
# The written form of specs

A decoded spec was checked against its schema first; the decoders below therefore only fill in what may be left out. Encoding writes every field, with null for what is absent.
-/

namespace GuardedPlan

def Json.nullable {α : Type} (encode : α → Json) : Option α → Json
  | some value => encode value
  | none => .null

namespace Project

def decode : Json → Decoded Project :=
  Fields.record (Project.mk <$> .required "name" Decode.text <*> .optional "description" Decode.text)
    "a project section" false

def encode (project : Project) : Json :=
  .object [("name", .string project.name), ("description", Json.nullable Json.string project.description)]

end Project

namespace ComponentLibrary

def decode : Json → Decoded ComponentLibrary :=
  Fields.record
    (ComponentLibrary.mk <$> .required "library" Decode.text
      <*> .defaulted "components" [] (Decode.list Decode.text))
    "a component library section" false

def encode (ui : ComponentLibrary) : Json :=
  .object [("library", .string ui.library), ("components", Json.strings ui.components)]

end ComponentLibrary

namespace AuthoredStep

def decode : Json → Decoded AuthoredStep :=
  Fields.record
    (AuthoredStep.mk
      <$> .required "id" Decode.text
      <*> .defaulted "requires" [] (Decode.list Decode.text)
      <*> .defaulted "actions" [] (Decode.list Decode.any)
      <*> .defaulted "ensures" [] (Decode.list Decode.any)
      <*> .defaulted "claims" [] (Decode.list Decode.text)
      <*> .defaulted "decisions" [] (Decode.list Decode.text))
    "a step" false

def encode (step : AuthoredStep) : Json :=
  .object
    [("id", .string step.id), ("requires", Json.strings step.requires), ("actions", .array step.actions),
      ("ensures", .array step.ensures), ("claims", Json.strings step.claims),
      ("decisions", Json.strings step.decisions)]

end AuthoredStep

namespace Invariant

def decode : Json → Decoded Invariant :=
  Fields.record (Invariant.mk <$> .required "id" Decode.text <*> .required "text" Decode.text)
    "an invariant" false

def encode (invariant : Invariant) : Json :=
  .object [("id", .string invariant.id), ("text", .string invariant.text)]

end Invariant

namespace Intent

def decode : Json → Decoded Intent :=
  Fields.record
    (Intent.mk <$> .required "summary" Decode.text
      <*> .defaulted "invariants" [] (Decode.list Invariant.decode)
      <*> .defaulted "nonGoals" [] (Decode.list Decode.text))
    "an intent section" false

def encode (intent : Intent) : Json :=
  .object
    [("summary", .string intent.summary), ("invariants", .array (intent.invariants.map Invariant.encode)),
      ("nonGoals", Json.strings intent.nonGoals)]

end Intent

namespace SectionDemand

def decode : Json → Decoded SectionDemand :=
  Fields.record (SectionDemand.mk <$> .required "path" Decode.text <*> .required "title" Decode.text)
    "a section demand" false

def encode (demand : SectionDemand) : Json :=
  .object [("path", .string demand.path), ("title", .string demand.title)]

end SectionDemand

namespace MatchMode

def named : List (String × MatchMode) := [("literal", literal), ("fuzzy", fuzzy)]

def name : MatchMode → String
  | literal => "literal"
  | fuzzy => "fuzzy"

end MatchMode

namespace TextDemand

def decode : Json → Decoded TextDemand :=
  Fields.record
    (TextDemand.mk <$> .required "path" Decode.text <*> .required "text" Decode.text
      <*> .defaulted "match" .literal (Decode.constant MatchMode.named)
      <*> .optional "threshold" Decode.float <*> .optional "gate" Decode.boolean)
    "a text demand" false

def encode (demand : TextDemand) : Json :=
  .object
    [("path", .string demand.path), ("text", .string demand.text), ("match", .string demand.mode.name),
      ("threshold", Json.nullable (fun x => .number (.float x)) demand.threshold),
      ("gate", Json.nullable Json.bool demand.gate)]

end TextDemand

namespace Docs

def decode : Json → Decoded Docs :=
  Fields.record
    (Docs.mk <$> .defaulted "requiredFiles" [] (Decode.list Decode.text)
      <*> .defaulted "sections" [] (Decode.list SectionDemand.decode)
      <*> .defaulted "expect" [] (Decode.list TextDemand.decode))
    "a documentation section" false

def encode (docs : Docs) : Json :=
  .object
    [("requiredFiles", Json.strings docs.requiredFiles), ("sections", .array (docs.sections.map SectionDemand.encode)),
      ("expect", .array (docs.expect.map TextDemand.encode))]

end Docs

namespace Reach

def named : List (String × Reach) := [("explicit", explicit), ("manifest", manifest)]

def name : Reach → String
  | explicit => "explicit"
  | manifest => "manifest"

end Reach

namespace Effects

def decode : Json → Decoded Effects :=
  Fields.record
    (Effects.mk <$> .defaulted "writeScopes" [] (Decode.list Decode.text)
      <*> .defaulted "expansion" .manifest (Decode.constant Reach.named))
    "an effects section" false

def encode (effects : Effects) : Json :=
  .object [("writeScopes", Json.strings effects.writeScopes), ("expansion", .string effects.expansion.name)]

end Effects

namespace Artifact

def decode : Json → Decoded Artifact :=
  Fields.record (Artifact.mk <$> .required "path" Decode.text <*> .defaulted "mustWrite" false Decode.boolean)
    "an artifact" false

def encode (artifact : Artifact) : Json :=
  .object [("path", .string artifact.path), ("mustWrite", .bool artifact.mustWrite)]

end Artifact

namespace AssumptionStatus

def named : List (String × AssumptionStatus) := [("verified", verified), ("unverified", unverified)]

def name : AssumptionStatus → String
  | verified => "verified"
  | unverified => "unverified"

end AssumptionStatus

namespace Assumption

def decode : Json → Decoded Assumption :=
  Fields.record
    (Assumption.mk <$> .required "id" Decode.text <*> .required "text" Decode.text
      <*> .required "status" (Decode.constant AssumptionStatus.named))
    "an assumption" false

def encode (assumption : Assumption) : Json :=
  .object
    [("id", .string assumption.id), ("text", .string assumption.text), ("status", .string assumption.status.name)]

end Assumption

namespace Spec

/-- Reads a section that holds a single field. -/
def decodeSection {α : Type} (field : Fields α) (title : String) : Json → Decoded α :=
  field.record title false

def decode : Json → Decoded Spec :=
  Fields.record
    (Spec.mk
      <$> .required "version" Decode.natural
      <*> .required "target" Decode.text
      <*> .required "project" Project.decode
      <*> .optional "workspace" (decodeSection (.required "dir" Decode.text) "a workspace section")
      <*> .optional "ui" ComponentLibrary.decode
      <*> .defaulted "routes" [] (Decode.list Decode.text)
      <*> .optional "quality" (decodeSection (.defaulted "gates" [] (Decode.list Decode.text)) "a quality section")
      <*> .optional "steps" (Decode.list AuthoredStep.decode)
      <*> .optional "intent" Intent.decode
      <*> .optional "docs" Docs.decode
      <*> .optional "effects" Effects.decode
      <*> .optional "artifacts"
        (decodeSection (.defaulted "required" [] (Decode.list Artifact.decode)) "an artifacts section")
      <*> .defaulted "assumptions" [] (Decode.list Assumption.decode)
      <*> .defaulted "decisions" [] (Decode.list Decision.decode))
    "a spec" false

def encode (spec : Spec) : Json :=
  .object
    [("version", .number (.int spec.version)), ("target", .string spec.target), ("project", spec.project.encode),
      ("workspace", Json.nullable (fun directory => .object [("dir", .string directory)]) spec.workspace),
      ("ui", Json.nullable ComponentLibrary.encode spec.ui), ("routes", Json.strings spec.routes),
      ("quality", Json.nullable (fun gates => .object [("gates", Json.strings gates)]) spec.gates),
      ("steps", Json.nullable (fun steps => .array (steps.map AuthoredStep.encode)) spec.steps),
      ("intent", Json.nullable Intent.encode spec.intent), ("docs", Json.nullable Docs.encode spec.docs),
      ("effects", Json.nullable Effects.encode spec.effects),
      ("artifacts", Json.nullable (fun required => .object [("required", .array (required.map Artifact.encode))])
        spec.artifacts),
      ("assumptions", .array (spec.assumptions.map Assumption.encode)),
      ("decisions", .array (spec.decisions.map Decision.encode))]

end Spec

end GuardedPlan
