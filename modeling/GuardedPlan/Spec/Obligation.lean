import GuardedPlan.Decode

/-!
# Actions and ensures

What a step does and what it has to prove are written as objects with a single field that names the alternative. Reading one may fail on its own without spoiling the rest of the spec.
-/

namespace GuardedPlan

/-- Something a step does. -/
inductive Action where
  | run (command : String)
  | writeFile (path : String) (content template : Option String) (vars : Table String)
  | appendFile (path content : String)
  | expand (name : String) (args : Table Json)
deriving Repr

namespace Action

def names : List String := ["run", "writeFile", "appendFile", "macro"]

def decode (value : Json) : Decoded Action := do
  let (name, body) ← Decode.singleField value
  match name with
  | "run" => run <$> Decode.text body
  | "writeFile" =>
    Fields.record
      (writeFile <$> .required "path" Decode.text <*> .optional "content" Decode.text
        <*> .optional "template" Decode.text <*> .defaulted "vars" .empty (Decode.table Decode.text))
      "struct WriteFileAction" true body
  | "appendFile" =>
    Fields.record (appendFile <$> .required "path" Decode.text <*> .required "content" Decode.text)
      "struct AppendFileAction" true body
  | "macro" =>
    Fields.record (expand <$> .required "name" Decode.text <*> .defaulted "args" .empty (Decode.table Decode.any))
      "struct MacroCall" true body
  | other => .error (.unknownVariant other names)

end Action

/-- Something a step has to prove. -/
inductive Ensure where
  | fileExists (path : String)
  | fileContains (path text : String)
  | routeExists (route : String)
  | commandSucceeds (command : String)
  | trackedOnly (directory glob : String) (allow : List String)
  | docSection (path title : String)
  | docContains (path text : String)
  | docResembles (path text : String) (threshold : Option Binary64) (gate : Option Bool)
  | artifactExists (path : String)
deriving Repr

namespace Ensure

def names : List String :=
  ["fileExists", "fileContains", "routeExists", "cmdOk", "gitTrackedOnly", "docSection", "docContains",
    "docContainsFuzzy", "artifactExists"]

def decode (value : Json) : Decoded Ensure := do
  let (name, body) ← Decode.singleField value
  match name with
  | "fileExists" => fileExists <$> Decode.text body
  | "fileContains" =>
    Fields.body (fileContains <$> .required "path" Decode.text <*> .required "text" Decode.text) body
  | "routeExists" => routeExists <$> Decode.text body
  | "cmdOk" => commandSucceeds <$> Decode.text body
  | "gitTrackedOnly" =>
    Fields.body
      (trackedOnly <$> .defaulted "dir" "." Decode.text <*> .required "glob" Decode.text
        <*> .defaulted "allow" [] (Decode.list Decode.text))
      body
  | "docSection" =>
    Fields.body (docSection <$> .required "path" Decode.text <*> .required "title" Decode.text) body
  | "docContains" =>
    Fields.body (docContains <$> .required "path" Decode.text <*> .required "text" Decode.text) body
  | "docContainsFuzzy" =>
    Fields.body
      (docResembles <$> .required "path" Decode.text <*> .required "text" Decode.text
        <*> .optional "threshold" Decode.float <*> .optional "gate" Decode.boolean)
      body
  | "artifactExists" => artifactExists <$> Decode.text body
  | other => .error (.unknownVariant other names)

end Ensure

end GuardedPlan
