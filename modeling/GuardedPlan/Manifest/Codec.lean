import GuardedPlan.Manifest.Basic
import GuardedPlan.Spec.Codec

/-!
# The written form of manifests

Decoding follows a check against the schema and fills in what may be left out; encoding writes every field.
-/

namespace GuardedPlan

namespace EffectsPolicy

def decode : Json → Decoded EffectsPolicy :=
  Fields.record
    (EffectsPolicy.mk <$> .defaulted "allowWrite" [] (Decode.list Decode.text)
      <*> .defaulted "denyWrite" [] (Decode.list Decode.text))
    "a write policy" false

def encode (policy : EffectsPolicy) : Json :=
  .object [("allowWrite", Json.strings policy.allowWrite), ("denyWrite", Json.strings policy.denyWrite)]

end EffectsPolicy

namespace CommandsPolicy

def decode : Json → Decoded CommandsPolicy :=
  Fields.record
    (CommandsPolicy.mk <$> .defaulted "allowPrefixes" [] (Decode.list Decode.text)
      <*> .defaulted "denySubstrings" [] (Decode.list Decode.text))
    "a command policy" false

def encode (policy : CommandsPolicy) : Json :=
  .object [("allowPrefixes", Json.strings policy.allowPrefixes), ("denySubstrings", Json.strings policy.denySubstrings)]

end CommandsPolicy

namespace MacroAction

def decode (value : Json) : Decoded MacroAction := do
  let (name, body) ← Decode.singleField value
  match name with
  | "run" => run <$> Decode.text body
  | "writeFile" => Fields.body (writeFile <$> .required "path" Decode.text <*> .required "content" Decode.text) body
  | "appendFile" => Fields.body (appendFile <$> .required "path" Decode.text <*> .required "content" Decode.text) body
  | "writeTemplate" =>
    Fields.body
      (writeTemplate <$> .required "path" Decode.text <*> .required "template" Decode.text
        <*> .defaulted "vars" .empty (Decode.table Decode.text))
      body
  | other => .error (.unknownVariant other ["run", "writeFile", "appendFile", "writeTemplate"])

def encode : MacroAction → Json
  | run command => .object [("run", .string command)]
  | writeFile path content => .object [("writeFile", .object [("path", .string path), ("content", .string content)])]
  | appendFile path content => .object [("appendFile", .object [("path", .string path), ("content", .string content)])]
  | writeTemplate path template vars =>
    .object [("writeTemplate", .object
      [("path", .string path), ("template", .string template), ("vars", .object (vars.map Json.string).entries)])]

end MacroAction

namespace MacroDefinition

def decode : Json → Decoded MacroDefinition :=
  Fields.record
    (MacroDefinition.mk <$> .optional "description" Decode.text
      <*> .defaulted "args" .empty (Decode.table (Decode.constant ArgumentType.named))
      <*> .required "expandsTo" (Decode.list MacroAction.decode))
    "a macro" false

def encode (definition : MacroDefinition) : Json :=
  .object
    [("description", Json.nullable Json.string definition.description),
      ("args", .object (definition.args.map fun type => Json.string type.name).entries),
      ("expandsTo", .array (definition.expandsTo.map MacroAction.encode))]

end MacroDefinition

namespace Routing

def decode (value : Json) : Decoded Routing := do
  let tagged ← Tagged.ofJson "style" "Routing" value
  match tagged.tag with
  | "fileBased" =>
    tagged.read "for file based routing"
      (fileBased <$> .required "pagesDir" Decode.text <*> .required "pageFile" Decode.text)
  | "routerTable" => tagged.read "for a router table" (routerTable <$> .required "routesFile" Decode.text)
  | other => .error (.unknownVariant other ["fileBased", "routerTable"])

def encode : Routing → Json
  | fileBased pagesDirectory pageFile =>
    .object [("style", .string "fileBased"), ("pagesDir", .string pagesDirectory), ("pageFile", .string pageFile)]
  | routerTable routesFile => .object [("style", .string "routerTable"), ("routesFile", .string routesFile)]

end Routing

namespace Semantics

def decode : Json → Decoded Semantics :=
  Fields.record
    (Semantics.mk <$> .defaulted "projectManifest" "package.json" Decode.text
      <*> .defaulted "routing" none (Decode.nullable Routing.decode))
    "conventions" false

def encode (semantics : Semantics) : Json :=
  .object
    [("projectManifest", .string semantics.projectManifest), ("routing", Json.nullable Routing.encode semantics.routing)]

end Semantics

namespace Manifest

def decode : Json → Decoded Manifest :=
  Fields.record
    (Manifest.mk
      <$> .optional "id" Decode.text
      <*> .required "presetVersion" Decode.text
      <*> .required "effectsPolicy" EffectsPolicy.decode
      <*> .required "commands" CommandsPolicy.decode
      <*> .defaulted "macros" .empty (Decode.table MacroDefinition.decode)
      <*> .defaulted "semantics" {} Semantics.decode)
    "a manifest" false

def encode (manifest : Manifest) : Json :=
  .object
    [("id", Json.nullable Json.string manifest.id), ("presetVersion", .string manifest.presetVersion),
      ("effectsPolicy", manifest.effectsPolicy.encode), ("commands", manifest.commands.encode),
      ("macros", .object (manifest.macros.map MacroDefinition.encode).entries),
      ("semantics", manifest.semantics.encode)]

end Manifest

end GuardedPlan
