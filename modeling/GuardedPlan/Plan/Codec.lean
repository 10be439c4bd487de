import GuardedPlan.Decode
import GuardedPlan.Plan.Basic

/-!
# The published form of plans

Field names, tags and the order of fields are fixed, so that plans can be compared as text. An operation carries its tag in `op`, a check in `kind`; decoding undoes encoding.
-/

namespace GuardedPlan

namespace Op

def tags : List String := ["RUN", "WRITE_FILE", "APPEND_FILE", "WRITE_TEMPLATE"]

def members : Op → List (String × Json)
  | run command => [("cmd", .string command)]
  | writeFile path content => [("path", .string path), ("content", .string content)]
  | appendFile path content => [("path", .string path), ("content", .string content)]
  | writeTemplate path template vars =>
    [("path", .string path), ("template", .string template), ("vars", .object (vars.map Json.string).entries)]

def encode (op : Op) : Json :=
  .object (("op", .string op.tag) :: op.members)

def decode (value : Json) : Decoded Op := do
  let tagged ← Tagged.ofJson "op" "Op" value
  match tagged.tag with
  | "RUN" => tagged.read "Op::Run" (run <$> .required "cmd" Decode.text)
  | "WRITE_FILE" =>
    tagged.read "Op::WriteFile" (writeFile <$> .required "path" Decode.text <*> .required "content" Decode.text)
  | "APPEND_FILE" =>
    tagged.read "Op::AppendFile" (appendFile <$> .required "path" Decode.text <*> .required "content" Decode.text)
  | "WRITE_TEMPLATE" =>
    tagged.read "Op::WriteTemplate"
      (writeTemplate <$> .required "path" Decode.text <*> .required "template" Decode.text
        <*> .required "vars" (Decode.table Decode.text))
  | other => .error (.unknownVariant other tags)

end Op

namespace Check

def kinds : List String :=
  ["file.exists", "file.contains", "route.exists", "cmd.ok", "git.trackedOnly", "doc.section", "doc.contains",
    "doc.contains_fuzzy", "artifact.exists"]

def members : Check → List (String × Json)
  | fileExists path => [("path", .string path)]
  | fileContains path text => [("path", .string path), ("text", .string text)]
  | routeExists directory route => [("dir", .string directory), ("route", .string route)]
  | commandSucceeds command => [("cmd", .string command)]
  | trackedOnly directory glob allow =>
    [("dir", .string directory), ("glob", .string glob), ("allow", Json.strings allow)]
  | docSection path title => [("path", .string path), ("title", .string title)]
  | docContains path text => [("path", .string path), ("text", .string text)]
  | docResembles path text threshold gate =>
    [("path", .string path), ("text", .string text), ("threshold", .number (.float threshold)), ("gate", .bool gate)]
  | artifactExists path => [("path", .string path)]

def encode (check : Check) : Json :=
  .object (("kind", .string check.kind) :: check.members)

def decode (value : Json) : Decoded Check := do
  let tagged ← Tagged.ofJson "kind" "Check" value
  match tagged.tag with
  | "file.exists" => tagged.read "Check::FileExists" (fileExists <$> .required "path" Decode.text)
  | "file.contains" =>
    tagged.read "Check::FileContains" (fileContains <$> .required "path" Decode.text <*> .required "text" Decode.text)
  | "route.exists" =>
    tagged.read "Check::RouteExists" (routeExists <$> .required "dir" Decode.text <*> .required "route" Decode.text)
  | "cmd.ok" => tagged.read "Check::CmdOk" (commandSucceeds <$> .required "cmd" Decode.text)
  | "git.trackedOnly" =>
    tagged.read "Check::GitTrackedOnly"
      (trackedOnly <$> .required "dir" Decode.text <*> .required "glob" Decode.text
        <*> .required "allow" (Decode.list Decode.text))
  | "doc.section" =>
    tagged.read "Check::DocSection" (docSection <$> .required "path" Decode.text <*> .required "title" Decode.text)
  | "doc.contains" =>
    tagged.read "Check::DocContains" (docContains <$> .required "path" Decode.text <*> .required "text" Decode.text)
  | "doc.contains_fuzzy" =>
    tagged.read "Check::DocContainsFuzzy"
      (docResembles <$> .required "path" Decode.text <*> .required "text" Decode.text
        <*> .required "threshold" Decode.float <*> .defaulted "gate" true Decode.boolean)
  | "artifact.exists" => tagged.read "Check::ArtifactExists" (artifactExists <$> .required "path" Decode.text)
  | other => .error (.unknownVariant other kinds)

end Check

namespace Step

def encode (step : Step) : Json :=
  .object
    [("id", .string step.id), ("requires", Json.strings step.requires), ("ops", .array (step.ops.map Op.encode)),
      ("checks", .array (step.checks.map Check.encode)), ("claims", Json.strings step.claims),
      ("decisions", Json.strings step.decisions)]

def decode : Json → Decoded Step :=
  Fields.record
    (Step.mk
      <$> .required "id" Decode.text
      <*> .required "requires" (Decode.list Decode.text)
      <*> .required "ops" (Decode.list Op.decode)
      <*> .required "checks" (Decode.list Check.decode)
      <*> .required "claims" (Decode.list Decode.text)
      <*> .required "decisions" (Decode.list Decode.text))
    "struct PlanStep" false

end Step

namespace Plan

def encode (plan : Plan) : Json :=
  .object
    [("lang", .string plan.lang), ("target", .string plan.target), ("presetVersion", .string plan.presetVersion),
      ("specHash", .string plan.specHash), ("steps", .array (plan.steps.map Step.encode))]

def decode : Json → Decoded Plan :=
  Fields.record
    (Plan.mk
      <$> .required "lang" Decode.text
      <*> .required "target" Decode.text
      <*> .required "presetVersion" Decode.text
      <*> .required "specHash" Decode.text
      <*> .required "steps" (Decode.list Step.decode))
    "struct Plan" false

def canonicalText (plan : Plan) : String :=
  plan.encode.pretty ++ "\n"

end Plan

end GuardedPlan
