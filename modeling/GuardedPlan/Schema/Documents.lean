import GuardedPlan.Schema.Basic

/-!
# The bundled schemas

The shapes of the four kinds of documents: a spec of version 1, a spec of version 2, a stack manifest and a persisted plan.
-/

namespace GuardedPlan.Schema

def text : Schema := [.kinds [.string]]

def someText : Schema := [.minLength 1, .kinds [.string]]

def boolean : Schema := [.kinds [.boolean]]

def listOf (item : Schema) : Schema := [.items item, .kinds [.array]]

/-- An object with some of the given properties, the required ones among them, and no others. -/
def record (properties : List (String × Schema)) (required : List String) : Schema :=
  [.closed properties] ++ (if required.isEmpty then [] else [.required required]) ++ [.kinds [.object]]

def ratio : Schema := [.maximum 1, .minimum 0, .kinds [.number]]

def shaped (shape : TextPattern) : Schema := [.pattern shape, .kinds [.string]]

def identifier : Schema := shaped .identifier

/-! ### Specs -/

def project : Schema := record [("name", someText), ("description", text)] ["name"]

def workspace : Schema := record [("dir", someText)] ["dir"]

def ui : Schema := record [("library", someText), ("components", listOf someText)] ["library"]

def routes : Schema := listOf (shaped .rooted)

def quality : Schema := record [("gates", listOf someText)] ["gates"]

def specStep : Schema :=
  record
    [("id", identifier), ("requires", listOf identifier), ("actions", listOf [.kinds [.object]]),
      ("ensures", listOf [.kinds [.object]]), ("claims", listOf text), ("decisions", listOf text)]
    ["id"]

def commonProperties (version : Int) : List (String × Schema) :=
  [("version", [.constant (.integer version)]), ("target", someText), ("project", project),
    ("workspace", workspace), ("ui", ui), ("routes", routes), ("quality", quality), ("steps", listOf specStep)]

def specV1 : Schema :=
  record (commonProperties 1) ["version", "target", "project"]

def intent : Schema :=
  record
    [("summary", text), ("invariants", listOf (record [("id", identifier), ("text", text)] ["id", "text"])),
      ("nonGoals", listOf text)]
    ["summary"]

def docs : Schema :=
  record
    [("requiredFiles", listOf someText),
      ("sections", listOf (record [("path", someText), ("title", someText)] ["path", "title"])),
      ("expect", listOf (record
        [("path", someText), ("text", someText), ("match", [.options ["literal", "fuzzy"]]),
          ("threshold", ratio), ("gate", boolean)]
        ["path", "text"]))]
    []

def effects : Schema :=
  record [("writeScopes", listOf someText), ("expansion", [.options ["explicit", "manifest"]])] []

def artifacts : Schema :=
  record [("required", listOf (record [("path", someText), ("mustWrite", boolean)] ["path"]))] []

def assumption : Schema :=
  record [("id", identifier), ("text", text), ("status", [.options ["verified", "unverified"]])]
    ["id", "text", "status"]

def decision : Schema :=
  record
    [("id", identifier), ("question", text), ("answer", text), ("rationale", text),
      ("status", [.options ["provisional", "final"]]), ("confidence", ratio), ("evidence", listOf text),
      ("parent", [.kinds [.string, .null]])]
    ["id", "question", "answer", "rationale", "status", "confidence"]

def specV2 : Schema :=
  record
    (commonProperties 2 ++
      [("intent", intent), ("docs", docs), ("effects", effects), ("artifacts", artifacts),
        ("assumptions", listOf assumption), ("decisions", listOf decision)])
    ["version", "target", "project", "steps"]

/-! ### Manifests -/

def macroFile : Schema := record [("path", text), ("content", text)] ["path", "content"]

def macroAction : Schema :=
  [.closed
      [("run", someText), ("writeFile", macroFile), ("appendFile", macroFile),
        ("writeTemplate", record
          [("path", text), ("template", text), ("vars", [.members text, .kinds [.object]])] ["path", "template"])],
    .maxFields 1, .minFields 1, .kinds [.object]]

def macroDefinition : Schema :=
  record
    [("description", text),
      ("args", [.members [.options ["path", "string", "string[]", "json"]], .kinds [.object]]),
      ("expandsTo", listOf macroAction)]
    ["expandsTo"]

def routing : Schema :=
  [.oneOf
    [record [("style", [.constant (.text "fileBased")]), ("pagesDir", text), ("pageFile", someText)]
        ["style", "pagesDir", "pageFile"],
      record [("style", [.constant (.text "routerTable")]), ("routesFile", someText)] ["style", "routesFile"]]]

def manifest : Schema :=
  [.properties
      [("commands", record [("allowPrefixes", listOf someText), ("denySubstrings", listOf someText)] []),
        ("effectsPolicy", record [("allowWrite", listOf someText), ("denyWrite", listOf someText)] []),
        ("id", text),
        ("macros", [.members macroDefinition, .kinds [.object]]),
        ("presetVersion", someText),
        ("semantics", record [("projectManifest", someText), ("routing", routing)] [])],
    .required ["presetVersion", "effectsPolicy", "commands"], .kinds [.object]]

/-! ### Plans -/

/-- One alternative of an operation or a check: its tag field and what comes with it. -/
def tagged (tag : String) (tags : List String) (properties : List (String × Schema)) : Schema :=
  let tagSchema : Schema := match tags with
    | [only] => [.constant (.text only)]
    | several => [.options several]
  [.closed ((tag, tagSchema) :: properties), .required (properties.map Prod.fst)]

def op : Schema :=
  [.oneOf
      [tagged "op" ["RUN"] [("cmd", text)],
        tagged "op" ["WRITE_FILE", "APPEND_FILE"] [("path", text), ("content", text)],
        tagged "op" ["WRITE_TEMPLATE"]
          [("path", text), ("template", text), ("vars", [.members text, .kinds [.object]])]],
    .required ["op"], .kinds [.object]]

def check : Schema :=
  [.oneOf
      [tagged "kind" ["file.exists", "artifact.exists"] [("path", text)],
        tagged "kind" ["file.contains", "doc.contains"] [("path", text), ("text", text)],
        tagged "kind" ["route.exists"] [("dir", text), ("route", text)],
        tagged "kind" ["cmd.ok"] [("cmd", text)],
        tagged "kind" ["git.trackedOnly"] [("dir", text), ("glob", text), ("allow", listOf text)],
        tagged "kind" ["doc.section"] [("path", text), ("title", text)],
        tagged "kind" ["doc.contains_fuzzy"]
          [("path", text), ("text", text), ("threshold", ratio), ("gate", boolean)]],
    .required ["kind"], .kinds [.object]]

def planStep : Schema :=
  record
    [("id", someText), ("requires", listOf text), ("ops", listOf op), ("checks", listOf check),
      ("claims", listOf text), ("decisions", listOf text)]
    ["id", "requires", "ops", "checks", "claims", "decisions"]

def plan : Schema :=
  record
    [("lang", [.constant (.text "webspec.plan/v1")]), ("target", someText), ("presetVersion", someText),
      ("specHash", shaped .specHash), ("steps", listOf planStep)]
    ["lang", "target", "presetVersion", "specHash", "steps"]

end GuardedPlan.Schema
