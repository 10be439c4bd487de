import GuardedPlan.Registry.Directory
import GuardedPlan.Proofs.FileTree.Reading

/-!
# Registries keep to one directory for each target

What a registry answers for a target depends on no file but a manifest directly in the directory of the target and the templates below it, and that directory stands directly in the root of the registry. A target that is no name of an entry is refused, and so are template paths that lead out of the templates. The lone dot is neither a name nor refused: its directory is the root itself.
-/

namespace GuardedPlan

namespace DirectoryRegistry

open FileTree

/-- The name of an entry without what separates or marks drives elsewhere. -/
def IsTargetName (target : String) : Prop :=
  Path.IsEntryName target ∧ '\\' ∉ target.toList ∧ Path.hasDrive target.toList = false

theorem isTarget_iff {target : String} : isTarget target = true ↔ IsTargetName target ∨ target = "." := by
  have hsplit : isTarget target = true ↔
      Path.isContained target = true ∧ '/' ∉ target.toList ∧ '\\' ∉ target.toList := by
    simp [isTarget, and_assoc]
  rw [hsplit]
  constructor
  · rintro ⟨hcontained, hslash, hback⟩
    obtain ⟨hsome, -, hdrive, -⟩ := Path.isContained_iff.1 hcontained
    by_cases hdot : target = "."
    · exact .inr hdot
    · have hempty : target ≠ "" := fun h => hsome (String.toList_eq_nil_iff.2 h)
      have hclimb : target ≠ ".." := by
        rintro rfl
        exact absurd hcontained (by decide)
      exact .inl ⟨⟨Path.isName_iff.2 ⟨hempty, hdot⟩, hclimb, hslash⟩, hback, hdrive⟩
  · rintro (⟨⟨hname, hclimb, hslash⟩, hback, hdrive⟩ | rfl)
    · refine ⟨Path.isContained_iff.2 ⟨?_, ?_, hdrive, ?_⟩, hslash, hback⟩
      · exact fun h => (Path.isName_iff.1 hname).1 (String.toList_eq_nil_iff.1 h)
      · unfold Path.isRooted
        split
        next heq => exact absurd (heq ▸ List.mem_cons_self) hslash
        next heq => exact absurd (heq ▸ List.mem_cons_self) hback
        next => rfl
      · have hparts : Path.parts target.toList = [target.toList] := by
          refine List.splitOnP_eq_singleton fun c hc => ?_
          have hnot : c ≠ '/' ∧ c ≠ '\\' := ⟨fun h => hslash (h ▸ hc), fun h => hback (h ▸ hc)⟩
          simp [hnot]
        rw [hparts, List.mem_singleton]
        intro h
        exact hclimb (String.toList_inj.1 h.symm)
    · decide

/-- Where the target of a registry is kept: what its path below the root leads to. -/
def home (registry : DirectoryRegistry) (tree : FileTree) (target : String) : Location :=
  tree.destination (Path.below registry.root target)

def templatePath (registry : DirectoryRegistry) (target path : String) : String :=
  Path.below (Path.below (Path.below registry.root target) "templates") path

variable {registry : DirectoryRegistry} {tree : FileTree} {target path : String}

theorem isContained_of_isTarget (h : isTarget target = true) : Path.isContained target = true := by
  simp only [isTarget, Bool.and_eq_true] at h
  exact h.1.1

theorem home_of_isTargetName (h : IsTargetName target) :
    registry.home tree target = tree.destination registry.root ++ [target] := by
  rw [home, destination_below tree _ (isContained_of_isTarget (isTarget_iff.2 (.inl h))), Path.names_of_isEntryName h.1]

theorem home_dot : registry.home tree "." = tree.destination registry.root := by
  have hnames : Path.names ["."] = [] := by decide
  rw [home, destination_below tree _ (by decide), hnames, List.append_nil]

theorem destination_manifest {name : String} (h : name ∈ manifestNames) :
    tree.destination (Path.below (Path.below registry.root target) name) = registry.home tree target ++ [name] := by
  have hnames : ∀ name ∈ manifestNames, Path.isContained name = true ∧ Path.names [name] = [name] := by decide
  obtain ⟨hcontained, hname⟩ := hnames name h
  rw [destination_below tree _ hcontained, hname, home]

theorem destination_template (h : Path.isContained path = true) :
    tree.destination (registry.templatePath target path) =
      registry.home tree target ++ "templates" :: Path.names [path] := by
  have hnames : Path.names ["templates"] = ["templates"] := by decide
  rw [templatePath, destination_below tree _ h, destination_below tree _ (by decide), hnames, home, List.append_assoc,
    List.singleton_append]

/-! ### What is refused -/

theorem manifest?_of_not_isTarget (h : ¬ isTarget target = true) (registry : DirectoryRegistry) (tree : FileTree) :
    registry.manifest? tree target = .error (.badTarget target) := by
  rw [manifest?, targetDirectory, if_neg h]

theorem template_of_not_isContained (h : ¬ Path.isContained path = true) (registry : DirectoryRegistry) (tree : FileTree)
    (target : String) : registry.template tree target path = .error (.badTemplate path) := by
  rw [template, if_neg h]

theorem template_of_not_isTarget (hpath : Path.isContained path = true) (h : ¬ isTarget target = true)
    (registry : DirectoryRegistry) (tree : FileTree) :
    registry.template tree target path = .error (.badTarget target) := by
  rw [template, if_pos hpath, targetDirectory, if_neg h]

/-- A template is refused without a look at the tree, or it is the text of one file. -/
theorem template_cases (registry : DirectoryRegistry) (target path : String) :
    (∃ fault, (fault = .badTemplate path ∨ fault = .badTarget target) ∧
      ∀ tree, registry.template tree target path = .error fault) ∨
    (Path.isContained path = true ∧ isTarget target = true ∧ ∀ tree, registry.template tree target path =
      (tree.readText (registry.templatePath target path)).mapError
        (.readingTemplate (registry.templatePath target path))) := by
  by_cases hpath : Path.isContained path = true
  · by_cases htarget : isTarget target = true
    · refine .inr ⟨hpath, htarget, fun tree => ?_⟩
      rw [template, if_pos hpath, targetDirectory, if_pos htarget]
      rfl
    · exact .inl ⟨_, .inr rfl, template_of_not_isTarget hpath htarget registry⟩
  · exact .inl ⟨_, .inl rfl, fun tree => template_of_not_isContained hpath registry tree target⟩

/-! ### What is read -/

theorem exists_name_of_manifestIn? {directory place : String} (h : manifestIn? tree directory = some place) :
    ∃ name ∈ manifestNames, place = Path.below directory name := by
  obtain ⟨name, hname, hplace⟩ := List.mem_map.1 (List.mem_of_find?_eq_some h)
  exact ⟨name, hname, hplace.symm⟩

/-- A lookup depends on which paths name files, and on the texts of the manifests. -/
theorem manifest?_congr {first second : FileTree} (hfiles : ∀ place, first.isFile place = second.isFile place)
    (htexts : ∀ name ∈ manifestNames, first.readText (Path.below (Path.below registry.root target) name) =
      second.readText (Path.below (Path.below registry.root target) name)) :
    registry.manifest? first target = registry.manifest? second target := by
  by_cases htarget : isTarget target = true
  · have hplace : ∀ directory, manifestIn? first directory = manifestIn? second directory := by
      intro directory
      rw [manifestIn?, manifestIn?, funext hfiles]
    rw [manifest?, manifest?, targetDirectory, if_pos htarget]
    dsimp only
    rw [hplace]
    cases hfound : manifestIn? second (Path.below registry.root target) with
    | none => rfl
    | some place =>
      obtain ⟨name, hname, rfl⟩ := exists_name_of_manifestIn? hfound
      dsimp only
      rw [htexts name hname]
  · rw [manifest?_of_not_isTarget htarget, manifest?_of_not_isTarget htarget]

/-- A manifest that was found is what one of the manifest files holds. -/
theorem exists_text_of_manifest? {value : Json} (h : registry.manifest? tree target = .ok (some value)) :
    ∃ name ∈ manifestNames, ∃ text, tree.readText (Path.below (Path.below registry.root target) name) = .ok text ∧
      Document.parse text = .ok value := by
  by_cases htarget : isTarget target = true
  · rw [manifest?, targetDirectory, if_pos htarget] at h
    dsimp only at h
    cases hfound : manifestIn? tree (Path.below registry.root target) with
    | none =>
      rw [hfound] at h
      cases h
    | some place =>
      obtain ⟨name, hname, rfl⟩ := exists_name_of_manifestIn? hfound
      rw [hfound] at h
      dsimp only at h
      cases htext : tree.readText (Path.below (Path.below registry.root target) name) with
      | error fault =>
        rw [htext] at h
        cases h
      | ok text =>
        rw [htext] at h
        dsimp only at h
        cases hvalue : Document.parse text with
        | error fault =>
          rw [hvalue] at h
          cases h
        | ok own =>
          rw [hvalue] at h
          cases h
          exact ⟨name, hname, text, htext, hvalue⟩
  · rw [manifest?_of_not_isTarget htarget] at h
    cases h

/-- For a target and a template path, a registry keeps to a directory: the files that its answers depend on are manifests directly in the directory and templates below its directory of templates, and what it answers is what such a file holds. -/
structure KeepsTo (registry : DirectoryRegistry) (tree : FileTree) (target path : String) (directory : Location) :
    Prop where
  manifestsRead : ∀ place, tree.Reads (fun seen => registry.manifest? seen target) place →
    ∃ name ∈ manifestNames, place = directory ++ [name]
  manifestHeld : ∀ value, registry.manifest? tree target = .ok (some value) →
    ∃ name ∈ manifestNames, ∃ text : String,
      tree.content? (directory ++ [name]) = some text.toUTF8 ∧ Document.parse text = .ok value
  templatesRead : ∀ place, tree.Reads (fun seen => registry.template seen target path) place →
    ∃ way, Path.IsDescent way ∧ place = directory ++ "templates" :: way
  templateHeld : ∀ text, registry.template tree target path = .ok text →
    ∃ way, Path.IsDescent way ∧ tree.content? (directory ++ "templates" :: way) = some text.toUTF8

theorem manifestsRead_home {place : Location} (h : tree.Reads (fun seen => registry.manifest? seen target) place) :
    ∃ name ∈ manifestNames, place = registry.home tree target ++ [name] := by
  obtain ⟨hfile, content, hanswer⟩ := h
  have hname : ∃ name ∈ manifestNames, (tree.putFile place content).readText
      (Path.below (Path.below registry.root target) name) ≠
        tree.readText (Path.below (Path.below registry.root target) name) := by
    refine Classical.byContradiction fun hnone => hanswer ?_
    refine manifest?_congr (fun path => ((sameShape_putFile hfile content).isFile_eq path).symm) fun name hname => ?_
    exact Classical.byContradiction fun hne => hnone ⟨name, hname, hne⟩
  obtain ⟨name, hname, hne⟩ := hname
  refine ⟨name, hname, ?_⟩
  rw [← destination_manifest hname]
  exact (destination_of_readText_ne hfile hne).1

/-- What a template path leads to stands below the directory of templates, if it is a file. -/
theorem isDescent_names_of_content (hpath : Path.isContained path = true)
    (hpassable : Passable tree.root (tree.start (registry.templatePath target path))
      (Path.segments (registry.templatePath target path)))
    (hcontent : (tree.content? (tree.destination (registry.templatePath target path))).isSome = true) :
    Path.IsDescent (Path.names [path]) := by
  refine ⟨?_, fun name hname => Path.isEntryName_of_mem_names hpath hname⟩
  exact names_ne_nil_of_content hpath (Path.below_ne_empty _ (by decide)) hpassable hcontent

theorem templatesRead_home {place : Location} (h : tree.Reads (fun seen => registry.template seen target path) place) :
    ∃ way, Path.IsDescent way ∧ place = registry.home tree target ++ "templates" :: way := by
  obtain ⟨hfile, content, hanswer⟩ := h
  dsimp only at hanswer
  rcases registry.template_cases target path with ⟨fault, -, hrefused⟩ | ⟨hpath, -, htext⟩
  · rw [hrefused, hrefused] at hanswer
    exact absurd rfl hanswer
  · have hne : (tree.putFile place content).readText (registry.templatePath target path) ≠
        tree.readText (registry.templatePath target path) := by
      intro hsame
      rw [htext, htext, hsame] at hanswer
      exact hanswer rfl
    obtain ⟨rfl, hpassable⟩ := destination_of_readText_ne hfile hne
    exact ⟨_, isDescent_names_of_content hpath hpassable hfile, destination_template hpath⟩

theorem templateHeld_home {text : String} (h : registry.template tree target path = .ok text) :
    ∃ way, Path.IsDescent way ∧ tree.content? (registry.home tree target ++ "templates" :: way) = some text.toUTF8 := by
  rcases registry.template_cases target path with ⟨fault, -, hrefused⟩ | ⟨hpath, -, htext⟩
  · rw [hrefused] at h
    cases h
  · rw [htext] at h
    cases hread : tree.readText (registry.templatePath target path) with
    | error fault =>
      rw [hread] at h
      cases h
    | ok own =>
      rw [hread] at h
      cases h
      obtain ⟨hcontent, hpassable⟩ := content_of_readText hread
      have hway := isDescent_names_of_content hpath hpassable (by rw [hcontent]; rfl)
      rw [destination_template hpath] at hcontent
      exact ⟨_, hway, hcontent⟩

theorem keepsTo_home (registry : DirectoryRegistry) (tree : FileTree) (target path : String) :
    registry.KeepsTo tree target path (registry.home tree target) where
  manifestsRead place h := manifestsRead_home h
  manifestHeld value h := by
    obtain ⟨name, hname, text, htext, hvalue⟩ := exists_text_of_manifest? h
    refine ⟨name, hname, text, ?_, hvalue⟩
    rw [← destination_manifest hname]
    exact (content_of_readText htext).1
  templatesRead place h := templatesRead_home h
  templateHeld text h := templateHeld_home h

theorem manifest?_eq_badTarget_iff : registry.manifest? tree target = .error (.badTarget target) ↔
    ¬ IsTargetName target ∧ target ≠ "." := by
  rw [← not_or, ← isTarget_iff]
  constructor
  · intro h htarget
    rw [manifest?, targetDirectory, if_pos htarget] at h
    dsimp only at h
    split at h
    · cases h
    · split at h
      · cases h
      · split at h <;> cases h
  · intro htarget
    exact manifest?_of_not_isTarget htarget registry tree

/-- A registry keeps to one directory for each target: below its root, the directory with the name of the target. The one exception is the lone dot, which is not refused although it names no directory of its own: for it a registry keeps to the root itself. All else that is no name is refused, and so is a template path that does not lead to a place below wherever it starts. -/
theorem keepsTo_by_target (registry : DirectoryRegistry) (tree : FileTree) (target path : String) :
    (IsTargetName target → registry.KeepsTo tree target path (tree.destination registry.root ++ [target])) ∧
    (target = "." → registry.KeepsTo tree target path (tree.destination registry.root)) ∧
    (registry.manifest? tree target = .error (.badTarget target) ↔ ¬ IsTargetName target ∧ target ≠ ".") ∧
    (¬ IsTargetName target → target ≠ "." → registry.template tree target path = .error (.badTemplate path) ∨
      registry.template tree target path = .error (.badTarget target)) ∧
    ((∃ start : Location, ¬ start <+: (⟨start, tree.root⟩ : FileTree).destination path) →
      registry.template tree target path = .error (.badTemplate path)) := by
  have hhome := registry.keepsTo_home tree target path
  refine ⟨fun htarget => ?_, ?_, manifest?_eq_badTarget_iff, fun htarget hdot => ?_, ?_⟩
  · rwa [home_of_isTargetName htarget] at hhome
  · rintro rfl
    rwa [home_dot] at hhome
  · rcases registry.template_cases target path with ⟨fault, rfl | rfl, hrefused⟩ | ⟨-, hnamed, -⟩
    · exact .inl (hrefused tree)
    · exact .inr (hrefused tree)
    · exact absurd (isTarget_iff.1 hnamed) (not_or.2 ⟨htarget, hdot⟩)
  · rintro ⟨start, hstart⟩
    refine template_of_not_isContained (fun hpath => hstart ?_) registry tree target
    rw [destination_of_isContained _ hpath]
    exact List.prefix_append _ _

end DirectoryRegistry

namespace Sample

def shelf : DirectoryRegistry := ⟨"registry"⟩

/-- A directory with a manifest and a template. -/
def shelved (entries : List (String × FileNode)) : FileNode :=
  .directory (("manifest.json", .file "null".toUTF8 false) ::
    ("templates", .directory [("page", .file "page".toUTF8 false)]) :: entries)

/-- A tree whose registry has a manifest and a template for one target, and others in its root. -/
def shelfTree : FileTree :=
  ⟨[], .directory [("registry", shelved [("t", shelved [])])]⟩

/-- The tree with bytes in the place of a file that are no text. -/
def shelfWithout (place : Location) : FileTree :=
  shelfTree.putFile place ⟨#[255]⟩

theorem shelf_samples :
    ((shelfTree.content? ["registry", "t", "manifest.json"]).isSome = true ∧
      (shelf.manifest? shelfTree "t").toBool = true ∧
      (shelf.manifest? (shelfWithout ["registry", "t", "manifest.json"]) "t").toBool = false) ∧
    ((shelfTree.content? ["registry", "manifest.json"]).isSome = true ∧
      (shelf.manifest? shelfTree ".").toBool = true ∧
      (shelf.manifest? (shelfWithout ["registry", "manifest.json"]) ".").toBool = false) ∧
    ((shelfTree.content? ["registry", "t", "templates", "page"]).isSome = true ∧
      (shelf.template shelfTree "t" "page").toBool = true ∧
      (shelf.template (shelfWithout ["registry", "t", "templates", "page"]) "t" "page").toBool = false) ∧
    ((shelfTree.content? ["registry", "templates", "page"]).isSome = true ∧
      (shelf.template shelfTree "." "page").toBool = true ∧
      (shelf.template (shelfWithout ["registry", "templates", "page"]) "." "page").toBool = false) ∧
    shelfTree.destination "registry" = ["registry"] ∧
    ¬ (["registry", "t", "templates"] <+:
      (⟨["registry", "t", "templates"], shelfTree.root⟩ : FileTree).destination "../manifest.json") := by
  decide +kernel

theorem reads_of_toBool {ε α : Type} {answer : FileTree → Except ε α} {place : Location}
    (hfile : (shelfTree.content? place).isSome = true) (hanswer : (answer shelfTree).toBool = true)
    (hwithout : (answer (shelfWithout place)).toBool = false) : shelfTree.Reads answer place := by
  refine ⟨hfile, ⟨#[255]⟩, fun hsame => ?_⟩
  rw [shelfWithout, hsame, hanswer] at hwithout
  cases hwithout

end Sample

namespace DirectoryRegistry

open Sample

/-- The manifest and the template of a target are read in its directory, and those in the root are read for the lone dot; what climbs is refused. -/
theorem keepsTo_by_target_samples :
    (IsTargetName "t" ∧ shelf.KeepsTo shelfTree "t" "page" ["registry", "t"] ∧
      shelfTree.Reads (fun seen => shelf.manifest? seen "t") ["registry", "t", "manifest.json"] ∧
      shelfTree.Reads (fun seen => shelf.template seen "t" "page") ["registry", "t", "templates", "page"]) ∧
    (shelf.KeepsTo shelfTree "." "page" ["registry"] ∧
      shelfTree.Reads (fun seen => shelf.manifest? seen ".") ["registry", "manifest.json"] ∧
      shelfTree.Reads (fun seen => shelf.template seen "." "page") ["registry", "templates", "page"]) ∧
    (shelf.manifest? shelfTree ".." = .error (.badTarget "..") ∧
      (shelf.template shelfTree ".." "page" = .error (.badTemplate "page") ∨
        shelf.template shelfTree ".." "page" = .error (.badTarget ".."))) ∧
    shelf.template shelfTree "t" "../manifest.json" = .error (.badTemplate "../manifest.json") := by
  obtain ⟨⟨hown, hownRead, hownLost⟩, ⟨hroot, hrootRead, hrootLost⟩, ⟨hpage, hpageRead, hpageLost⟩,
    ⟨htop, htopRead, htopLost⟩, hdestination, hclimbs⟩ := shelf_samples
  have hname : IsTargetName "t" := ⟨⟨by decide, by decide, by decide⟩, by decide, by decide⟩
  have hclimb : ¬ IsTargetName ".." := fun h => h.1.2.1 rfl
  obtain ⟨htarget, -⟩ := keepsTo_by_target shelf shelfTree "t" "page"
  obtain ⟨-, hdot, -⟩ := keepsTo_by_target shelf shelfTree "." "page"
  obtain ⟨-, -, hrefused, hneither, -⟩ := keepsTo_by_target shelf shelfTree ".." "page"
  obtain ⟨-, -, -, -, hout⟩ := keepsTo_by_target shelf shelfTree "t" "../manifest.json"
  have hbase : shelfTree.destination shelf.root = ["registry"] := hdestination
  rw [hbase] at htarget hdot
  exact ⟨⟨hname, htarget hname, reads_of_toBool hown hownRead hownLost, reads_of_toBool hpage hpageRead hpageLost⟩,
    ⟨hdot rfl, reads_of_toBool hroot hrootRead hrootLost, reads_of_toBool htop htopRead htopLost⟩,
    ⟨hrefused.2 ⟨hclimb, by decide⟩, hneither hclimb (by decide)⟩, hout ⟨_, hclimbs⟩⟩

end DirectoryRegistry

end GuardedPlan
