import GuardedPlan.Compile
import GuardedPlan.Manifest.Codec
import GuardedPlan.Proofs.Decode.Reading
import GuardedPlan.Proofs.Schema.Agreement
import GuardedPlan.Proofs.Schema.Meets

/-!
# Manifests that were checked

A manifest is only ever used after its value met the schema, and a value that meets it is read: an action of a macro is an object whose only field names it, and the body below is read strictly; routing is a choice between two tagged records. The schema of manifests itself is open, so a manifest may hold fields that nobody reads. Some of what the schema asks for the type does not show: a version and every allowed prefix are texts with at least one character.
-/

namespace GuardedPlan

open Schema

theorem EffectsPolicy.readBy :
    ReadBy (record [("allowWrite", listOf someText), ("denyWrite", listOf someText)] []) decode :=
  .record (.seq (.map (.defaulted readBy_someText.list)) (.defaulted readBy_someText.list))

theorem CommandsPolicy.readBy :
    ReadBy (record [("allowPrefixes", listOf someText), ("denySubstrings", listOf someText)] []) decode :=
  .record (.seq (.map (.defaulted readBy_someText.list)) (.defaulted readBy_someText.list))

/-! ### Macros -/

namespace MacroAction

theorem readBy_file (make : String → String → MacroAction) : ReadBy macroFile
    (Fields.body (make <$> .required "path" Decode.text <*> .required "content" Decode.text)) :=
  .body (by simp) (.seq (.map (.required (by simp) readBy_text)) (.required (by simp) readBy_text))

theorem readBy_template :
    ReadBy (record [("path", text), ("template", text), ("vars", [.members text, .kinds [.object]])]
        ["path", "template"])
      (Fields.body (writeTemplate <$> .required "path" Decode.text <*> .required "template" Decode.text
        <*> .defaulted "vars" .empty (Decode.table Decode.text))) := by
  refine .body (by simp) (.seq (.seq (.map ?path) ?template) ?vars)
  case path => exact .required (by simp) readBy_text
  case template => exact .required (by simp) readBy_text
  case vars => exact .defaulted readBy_text.table

theorem readBy : ReadBy macroAction decode := by
  intro value hmeets
  rw [macroAction, meets_cons_iff, meets_cons_iff, meets_cons_iff, meets_singleton_iff,
    ruleIssues_kinds_eq_nil_iff] at hmeets
  obtain ⟨hclosed, hmost, hleast, hkind⟩ := hmeets
  cases value with
  | object fields =>
    rw [ruleIssues_maxFields_eq_nil_iff] at hmost
    rw [ruleIssues_minFields_eq_nil_iff] at hleast
    obtain ⟨⟨name, body⟩, rfl⟩ := List.length_eq_one_iff.1 (Nat.le_antisymm hmost hleast)
    have hdeclared := (ruleIssues_closed_eq_nil_iff _ _).1 hclosed (name, body) (List.mem_singleton.2 rfl)
    -- The field is one of the four that the schema declares, and its name picks the reader of the body.
    rcases hdeclared.cons_cases with ⟨rfl, hbody⟩ | hdeclared
    · obtain ⟨command, hcommand⟩ := readBy_someText body hbody
      exact ⟨run command, by rw [← Except.map_eq_ok_iff.2 ⟨command, hcommand, rfl⟩]; rfl⟩
    rcases hdeclared.cons_cases with ⟨rfl, hbody⟩ | hdeclared
    · exact readBy_file writeFile body hbody
    rcases hdeclared.cons_cases with ⟨rfl, hbody⟩ | hdeclared
    · exact readBy_file appendFile body hbody
    rcases hdeclared.cons_cases with ⟨rfl, hbody⟩ | hdeclared
    · exact readBy_template body hbody
    · exact absurd hdeclared (not_declared_nil _)
  | _ => simp [Json.kind] at hkind

end MacroAction

theorem MacroDefinition.readBy : ReadBy macroDefinition decode := by
  refine .record (.seq (.seq (.map ?description) ?args) ?expandsTo)
  case description => exact .optional readBy_text
  case args => exact .defaulted (readBy_constant (by decide)).table
  case expandsTo => exact .required (by simp) MacroAction.readBy.list

/-! ### Conventions -/

namespace Routing

/-- What stands beside a fixed style is read by the fields that come with it. -/
theorem exists_read_of_record {style : String} {properties : List (String × Schema)} {needed : List String}
    {value : Json} {fields : Fields Routing} [Fields.Honest fields]
    (hmeets : Meets (record (("style", [.constant (.text style)]) :: properties) ("style" :: needed)) value)
    (hneeded : "style" ∉ needed) (hfields : Complete (within properties) needed fields) (title : String) :
    ∃ members routing, value = .object members ∧ Json.lookup "style" members = some (.string style) ∧
      Tagged.read ⟨style, .inl (members.filter fun member => member.1 ≠ "style")⟩ title fields = .ok routing := by
  obtain ⟨members, rfl, hdeclared, hpresent⟩ := (meets_record_iff _ _ _).1 hmeets
  obtain ⟨given, hgiven⟩ := hpresent "style" List.mem_cons_self
  have hstyle : Meets (tagSchema [style]) given := Declared.meets_of_lookup hdeclared hgiven List.lookup_cons_self
  obtain ⟨name, hname, rfl⟩ := exists_tag_of_meets hstyle
  obtain rfl := List.mem_singleton.1 hname
  obtain ⟨routing, hrouting⟩ := hfields.exists_read hneeded hdeclared
    (fun key hkey => hpresent key (List.mem_cons_of_mem "style" hkey)) title
  exact ⟨members, routing, rfl, hgiven, hrouting⟩

theorem readBy : ReadBy Schema.routing decode := by
  intro value hmeets
  have hpages : Complete (within [("pagesDir", text), ("pageFile", someText)]) ["pagesDir", "pageFile"]
      (fileBased <$> .required "pagesDir" Decode.text <*> .required "pageFile" Decode.text) :=
    .seq (.map (.required (by simp) readBy_text)) (.required (by simp) readBy_someText)
  have hroutes : Complete (within [("routesFile", someText)]) ["routesFile"]
      (routerTable <$> .required "routesFile" Decode.text) :=
    .map (.required (by simp) readBy_someText)
  rw [Schema.routing, meets_singleton_iff] at hmeets
  obtain ⟨branch, hbranch, hmeets⟩ := exists_branch_of_oneOf hmeets
  rcases List.mem_cons.1 hbranch with rfl | hbranch
  · obtain ⟨members, routing, rfl, hstyle, hrouting⟩ :=
      exists_read_of_record hmeets (by simp) hpages "for file based routing"
    exact ⟨routing, by rw [decode, Tagged.ofJson_object hstyle]; exact hrouting⟩
  · obtain rfl := List.mem_singleton.1 hbranch
    obtain ⟨members, routing, rfl, hstyle, hrouting⟩ :=
      exists_read_of_record hmeets (by simp) hroutes "for a router table"
    exact ⟨routing, by rw [decode, Tagged.ofJson_object hstyle]; exact hrouting⟩

end Routing

theorem Semantics.readBy : ReadBy (record [("projectManifest", someText), ("routing", Schema.routing)] []) decode :=
  .record (.seq (.map (.defaulted readBy_someText)) (.defaulted Routing.readBy.nullable))

/-! ### Manifests -/

theorem Manifest.readBy : ReadBy Schema.manifest decode := by
  refine .openRecord (.seq (.seq (.seq (.seq (.seq (.map ?id) ?presetVersion) ?effectsPolicy) ?commands) ?macros)
    ?semantics)
  case id => exact .optional readBy_text
  case presetVersion => exact .required (by simp) readBy_someText
  case effectsPolicy => exact .required (by simp) EffectsPolicy.readBy
  case commands => exact .required (by simp) CommandsPolicy.readBy
  case macros => exact .defaulted MacroDefinition.readBy.table
  case semantics => exact .defaulted Semantics.readBy

/-! ### What the type does not show -/

open Fields

theorem CommandsPolicy.decode_object_eq_ok_iff {members : List (String × Json)} {policy : CommandsPolicy} :
    decode (.object members) = .ok policy ↔
      (defaulted "allowPrefixes" [] (Decode.list Decode.text) members).value = .ok policy.allowPrefixes ∧
        (defaulted "denySubstrings" [] (Decode.list Decode.text) members).value = .ok policy.denySubstrings := by
  rw [decode, record_object_eq_ok_iff]
  simp only [value_seq_eq_ok_iff, value_map_eq_ok_iff]
  constructor
  · rintro ⟨_, _, ⟨_, hprefixes, rfl⟩, hsubstrings, rfl⟩
    exact ⟨hprefixes, hsubstrings⟩
  · rintro ⟨hprefixes, hsubstrings⟩
    exact ⟨_, _, ⟨_, hprefixes, rfl⟩, hsubstrings, rfl⟩

/-- The texts of a checked list have characters. -/
theorem Decode.empty_not_mem_of_meets {value : Json} {texts : List String} (hmeets : Meets (listOf someText) value)
    (hread : Decode.list Decode.text value = .ok texts) : "" ∉ texts := by
  obtain ⟨items, rfl, hitems⟩ := (meets_listOf_iff _ _).1 hmeets
  intro hempty
  obtain ⟨item, hitem, htext⟩ := exists_of_mem_mapM hread hempty
  obtain ⟨content, hcontent, rfl⟩ := (meets_someText_iff item).1 (hitems item hitem)
  exact hcontent (by simpa [Decode.text] using htext)

namespace Manifest

theorem decode_object_eq_ok_iff {members : List (String × Json)} {manifest : Manifest} :
    decode (.object members) = .ok manifest ↔
      (optional "id" Decode.text members).value = .ok manifest.id ∧
        (required "presetVersion" Decode.text members).value = .ok manifest.presetVersion ∧
        (required "effectsPolicy" EffectsPolicy.decode members).value = .ok manifest.effectsPolicy ∧
        (required "commands" CommandsPolicy.decode members).value = .ok manifest.commands ∧
        (defaulted "macros" .empty (Decode.table MacroDefinition.decode) members).value = .ok manifest.macros ∧
        (defaulted "semantics" {} Semantics.decode members).value = .ok manifest.semantics := by
  rw [decode, record_object_eq_ok_iff]
  simp only [value_seq_eq_ok_iff, value_map_eq_ok_iff]
  constructor
  · rintro ⟨_, _, ⟨_, _, ⟨_, _, ⟨_, _, ⟨_, _, ⟨_, hid, rfl⟩, hversion, rfl⟩, heffects, rfl⟩, hcommands, rfl⟩,
      hmacros, rfl⟩, hsemantics, rfl⟩
    exact ⟨hid, hversion, heffects, hcommands, hmacros, hsemantics⟩
  · rintro ⟨hid, hversion, heffects, hcommands, hmacros, hsemantics⟩
    exact ⟨_, _, ⟨_, _, ⟨_, _, ⟨_, _, ⟨_, _, ⟨_, hid, rfl⟩, hversion, rfl⟩, heffects, rfl⟩, hcommands, rfl⟩,
      hmacros, rfl⟩, hsemantics, rfl⟩

theorem ofJson_eq_ok_iff {target : String} {value : Json} {manifest : Manifest} :
    ofJson target value = .ok manifest ↔ Meets Schema.manifest value ∧ decode value = .ok manifest := by
  rw [ofJson, Meets]
  cases Schema.issues Schema.manifest value with
  | nil => cases hread : decode value <;> simp
  | cons issue rest => simp

theorem resolve_eq_ok_iff {lookup : ManifestLookup} {target : String} {manifest : Manifest} :
    resolve lookup target = .ok manifest ↔
      ∃ value, lookup target = .ok (some value) ∧ Meets Schema.manifest value ∧ decode value = .ok manifest := by
  rw [resolve]
  cases lookup target with
  | error fault => simp
  | ok found =>
    cases found with
    | none => simp
    | some value => simp [ofJson_eq_ok_iff]

/-- What the schema of manifests promises of a manifest. -/
structure Checked (manifest : Manifest) : Prop where
  version : manifest.presetVersion ≠ ""
  leading : "" ∉ manifest.commands.allowPrefixes

theorem checked_of_decode {value : Json} {manifest : Manifest} (hmeets : Meets Schema.manifest value)
    (hread : decode value = .ok manifest) : Checked manifest := by
  rw [Schema.manifest, meets_cons_iff, meets_cons_iff, meets_singleton_iff, ruleIssues_kinds_eq_nil_iff] at hmeets
  obtain ⟨hproperties, _, hkind⟩ := hmeets
  cases value with
  | object members =>
    rw [ruleIssues_properties_eq_nil_iff] at hproperties
    obtain ⟨_, hversion, _, hcommands, _⟩ := decode_object_eq_ok_iff.1 hread
    refine ⟨?_, ?_⟩
    · obtain ⟨value, hvalue, htext⟩ := value_required_eq_ok_iff.1 hversion
      have hmeets : Meets someText value := hproperties ("presetVersion", someText) (by simp) value hvalue
      obtain ⟨content, hcontent, rfl⟩ := (meets_someText_iff value).1 hmeets
      cases htext
      exact hcontent
    · obtain ⟨value, hvalue, hpolicy⟩ := value_required_eq_ok_iff.1 hcommands
      have hmeets := hproperties
        ("commands", record [("allowPrefixes", listOf someText), ("denySubstrings", listOf someText)] []) (by simp)
        value hvalue
      obtain ⟨fields, rfl, hfields, _⟩ := (meets_record_iff _ _ _).1 hmeets
      rcases value_defaulted_eq_ok_iff.1 (CommandsPolicy.decode_object_eq_ok_iff.1 hpolicy).1 with
        ⟨_, hnone⟩ | ⟨prefixes, hprefixes, hlist⟩
      · rw [hnone]
        exact List.not_mem_nil
      · exact Decode.empty_not_mem_of_meets (Declared.meets_of_lookup hfields hprefixes rfl) hlist
  | _ => simp [Json.kind] at hkind

theorem checked_of_resolve {lookup : ManifestLookup} {target : String} {manifest : Manifest}
    (h : resolve lookup target = .ok manifest) : Checked manifest := by
  obtain ⟨value, _, hmeets, hread⟩ := resolve_eq_ok_iff.1 h
  exact checked_of_decode hmeets hread

end Manifest

end GuardedPlan
