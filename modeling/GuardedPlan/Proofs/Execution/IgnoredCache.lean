import GuardedPlan.Proofs.Execution.Rerun
import GuardedPlan.Proofs.Execution.RouteTable

/-!
# The ignored cache

The step that marks the workspace adds the cache directory at the end of the ignore file, as a line with its line feed, and does not look at what is there. Where the file ends in a line feed, or holds nothing, that is a line of its own. Otherwise the two join: the last line of the file is lost, and the cache directory is not ignored, unless both are lines of the file already.
-/

namespace GuardedPlan

variable {σ : Type}

/-! ### Lines -/

/-- The byte that ends a line. -/
def lineFeed : UInt8 := 10

/-- The lines of a file that end in a line feed, without it. -/
def endedLines (content : ByteArray) : List (List UInt8) :=
  (content.data.toList.splitOn lineFeed).dropLast

/-- What a file holds after its last line feed. -/
def openLine (content : ByteArray) : List UInt8 :=
  (content.data.toList.splitOn lineFeed).getLastD []

/-- The lines of a file. What it holds after its last line feed is one as well, if that is anything. -/
def lines (content : ByteArray) : List (List UInt8) :=
  endedLines content ++ if openLine content = [] then [] else [openLine content]

/-- Bytes without a line feed go to the end of what stands after the last one. -/
theorem exists_splitOn_append (bytes : List UInt8) :
    ∃ ended rest, ∀ more, lineFeed ∉ more → (bytes ++ more).splitOn lineFeed = ended ++ [rest ++ more] := by
  induction bytes with
  | nil => exact ⟨[], [], fun more hmore => List.splitOn_eq_singleton hmore⟩
  | cons byte bytes ih =>
    obtain ⟨ended, rest, hsplit⟩ := ih
    by_cases hbyte : byte = lineFeed
    · refine ⟨[] :: ended, rest, fun more hmore => ?_⟩
      rw [List.cons_append, List.splitOn_cons_eq_if_modifyHead, if_pos (beq_iff_eq.2 hbyte), hsplit more hmore,
        List.cons_append]
    · cases ended with
      | nil =>
        refine ⟨[], byte :: rest, fun more hmore => ?_⟩
        rw [List.cons_append, List.splitOn_cons_eq_if_modifyHead, if_neg (mt beq_iff_eq.1 hbyte), hsplit more hmore]
        rfl
      | cons first others =>
        refine ⟨(byte :: first) :: others, rest, fun more hmore => ?_⟩
        rw [List.cons_append, List.splitOn_cons_eq_if_modifyHead, if_neg (mt beq_iff_eq.1 hbyte), hsplit more hmore]
        rfl

variable {added : ByteArray} {line : List UInt8}

theorem lines_append_line (hadded : added.data.toList = line ++ [lineFeed]) (hline : lineFeed ∉ line)
    (before : ByteArray) : lines (before ++ added) = endedLines before ++ [openLine before ++ line] := by
  obtain ⟨ended, rest, hsplit⟩ := exists_splitOn_append before.data.toList
  have hbefore : before.data.toList.splitOn lineFeed = ended ++ [rest] := by
    have hnothing := hsplit [] List.not_mem_nil
    rw [List.append_nil, List.append_nil] at hnothing
    exact hnothing
  have hafter : (before ++ added).data.toList.splitOn lineFeed = ended ++ [rest ++ line] ++ [[]] := by
    rw [ByteArray.data_append, Array.toList_append, hadded, ← List.append_assoc, List.splitOn_append_cons_self,
      hsplit line hline, List.splitOn_nil]
  rw [lines, endedLines, endedLines, openLine, openLine, hbefore, hafter]
  simp

/-- A line that is added at the end of a file becomes a line of it, and none is lost, exactly if nothing stands after the last line feed, or both what stands there and the line that is added are lines of the file before. -/
theorem line_added_iff (hadded : added.data.toList = line ++ [lineFeed]) (hline : lineFeed ∉ line) (hsome : line ≠ [])
    (before : ByteArray) :
    (line ∈ lines (before ++ added) ∧ ∀ other ∈ lines before, other ∈ lines (before ++ added)) ↔
      openLine before = [] ∨ openLine before ∈ endedLines before ∧ line ∈ endedLines before := by
  rw [lines_append_line hadded hline, lines]
  by_cases hopen : openLine before = []
  · simp +contextual [hopen]
  · have hjoined : line ≠ openLine before ++ line := fun hsame => hopen (List.self_eq_append_left.1 hsame)
    have hgrown : openLine before ≠ openLine before ++ line := fun hsame => hsome (List.self_eq_append_right.1 hsame)
    simp only [hopen, if_false, List.mem_append, List.mem_singleton, hjoined, or_false, false_or]
    constructor
    · rintro ⟨hmem, hothers⟩
      exact ⟨(hothers _ (.inr rfl)).resolve_right hgrown, hmem⟩
    · rintro ⟨hopened, hmem⟩
      refine ⟨hmem, fun other hother => ?_⟩
      rcases hother with hended | rfl
      · exact .inl hended
      · exact .inl hopened

/-! ### The step that marks the workspace -/

theorem World.Edited.of_performAll {host : Host σ} {target step : String} {manifest : Manifest} {ops : List Op}
    {world after : World σ} (hcommands : ∀ op ∈ ops, op.command? = none)
    (h : performAll (host.performer target manifest) step (ops.map .op) world = (.ok (), after)) :
    world.Edited host target ops after := by
  induction ops generalizing world with
  | nil =>
    cases h
    exact .nil rfl
  | cons op rest ih =>
    obtain ⟨before, middle, later, hbefore, happly, hlater, hrest⟩ := exists_apply_of_performAll h
    obtain ⟨hop, hothers⟩ := List.forall_mem_cons.1 hcommands
    have hedited := (ih hothers hrest).congr hlater.symm hothers
    exact (World.Edited.cons hop happly hedited).congr hbefore.symm hcommands

/-- What the ignore file of the working directory holds; nothing when there is none. -/
def Host.ignoreFile (host : Host σ) (tree : FileTree) : ByteArray :=
  (tree.content? (tree.destination host.directory ++ [".gitignore"])).getD .empty

/-- The step adds the cache directory at the end of the ignore file, whatever that holds. -/
theorem Standard.ignoreFile_of_performAll {spec : Spec} {host : Host σ} {target step : String} {manifest : Manifest}
    {world after : World σ}
    (h : performAll (host.performer target manifest) step ((initStep spec).ops.map .op) world = (.ok (), after)) :
    host.ignoreFile after.tree = host.ignoreFile world.tree ++ (cacheDirectory ++ "\n").toUTF8 := by
  have hedited := World.Edited.of_performAll (by simp [initStep, Op.command?]) h
  have hedits : host.edits target (world.tree.destination host.directory) (initStep spec).ops world =
      [⟨world.tree.destination host.directory ++ Path.names [projectMarker], true, (markerText spec).toUTF8⟩,
        ⟨world.tree.destination host.directory ++ Path.names [targetMarker], true, (spec.target ++ "\n").toUTF8⟩,
        ⟨world.tree.destination host.directory ++ Path.names [".gitignore"], false,
          (cacheDirectory ++ "\n").toUTF8⟩] := rfl
  have hproject : [".gitignore"] ≠ Path.names [projectMarker] := by decide
  have htarget : [".gitignore"] ≠ Path.names [targetMarker] := by decide
  have hignore : Path.names [".gitignore"] = [".gitignore"] := by decide
  rw [Host.ignoreFile, Host.ignoreFile, FileTree.destination_congr hedited.current, hedited.content, hedits]
  simp [Edit.through, Edit.after, hproject, htarget, hignore]

def Standard.cacheLine : List UInt8 :=
  cacheDirectory.toUTF8.data.toList

/-- The plan of a spec without steps begins with the step that marks the workspace. Once its operations were applied, the cache directory is a line of the ignore file, and all lines that were there before still are, exactly if the file was missing, empty or ended in a line feed, or both what stood after its last line feed and the cache directory were lines of it as well. -/
theorem cache_ignored_iff {spec : Spec} (hsteps : spec.steps = none) (manifest : Manifest) :
    [Standard.initStep spec] <+: (spec.draft manifest).steps ∧
    ∀ (σ : Type) (host : Host σ) (target : String) (world after : World σ),
      performAll (host.performer target manifest) (Standard.initStep spec).id
          ((Standard.initStep spec).ops.map .op) world = (.ok (), after) →
      ((Standard.cacheLine ∈ lines (host.ignoreFile after.tree) ∧
          ∀ line ∈ lines (host.ignoreFile world.tree), line ∈ lines (host.ignoreFile after.tree)) ↔
        openLine (host.ignoreFile world.tree) = [] ∨
          openLine (host.ignoreFile world.tree) ∈ endedLines (host.ignoreFile world.tree) ∧
            Standard.cacheLine ∈ endedLines (host.ignoreFile world.tree)) := by
  refine ⟨spec.init_step_draft hsteps manifest, fun σ host target world after hperform => ?_⟩
  rw [Standard.ignoreFile_of_performAll hperform]
  exact line_added_iff (by decide) (by decide) (by decide) _

namespace Sample

/-- A working directory with an ignore file. -/
def ignoringWorld (content : String) : World Unit :=
  ⟨⟨[], .directory [(".gitignore", .file content.toUTF8 false)]⟩, (), []⟩

theorem exists_init_run (content : String) :
    ∃ after, performAll (host.performer "t" tableManifest) "init" ((Standard.initStep (routedSpec "/")).ops.map .op)
      (ignoringWorld content) = (.ok (), after) := ⟨_, rfl⟩

theorem ended_samples :
    openLine (host.ignoreFile (ignoringWorld "node_modules\n").tree) = [] ∧
      "node_modules".toUTF8.data.toList ∈ lines (host.ignoreFile (ignoringWorld "node_modules\n").tree) ∧
      openLine (host.ignoreFile (ignoringWorld "node_modules").tree) ≠ [] ∧
      endedLines (host.ignoreFile (ignoringWorld "node_modules").tree) = [] := by
  decide +kernel

end Sample

/-- The cache directory is ignored below a line that ends in a line feed, but not below one that does not. -/
theorem cache_ignored_iff_samples :
    (∃ after, performAll (Sample.host.performer "t" Sample.tableManifest) "init"
        ((Standard.initStep (Sample.routedSpec "/")).ops.map .op) (Sample.ignoringWorld "node_modules\n") =
          (.ok (), after) ∧
      Standard.cacheLine ∈ lines (Sample.host.ignoreFile after.tree) ∧
      "node_modules".toUTF8.data.toList ∈ lines (Sample.host.ignoreFile after.tree)) ∧
    ∃ after, performAll (Sample.host.performer "t" Sample.tableManifest) "init"
        ((Standard.initStep (Sample.routedSpec "/")).ops.map .op) (Sample.ignoringWorld "node_modules") =
          (.ok (), after) ∧
      ¬ (Standard.cacheLine ∈ lines (Sample.host.ignoreFile after.tree) ∧
        ∀ line ∈ lines (Sample.host.ignoreFile (Sample.ignoringWorld "node_modules").tree),
          line ∈ lines (Sample.host.ignoreFile after.tree)) := by
  obtain ⟨-, hruns⟩ := @cache_ignored_iff (Sample.routedSpec "/") rfl Sample.tableManifest
  obtain ⟨hended, hline, hopen, hnothing⟩ := Sample.ended_samples
  constructor
  · obtain ⟨after, hperform⟩ := Sample.exists_init_run "node_modules\n"
    obtain ⟨hcache, hkept⟩ := (hruns Unit Sample.host "t" _ after hperform).2 (.inl hended)
    exact ⟨after, hperform, hcache, hkept _ hline⟩
  · obtain ⟨after, hperform⟩ := Sample.exists_init_run "node_modules"
    refine ⟨after, hperform, ?_⟩
    rw [hruns Unit Sample.host "t" _ after hperform, hnothing]
    rintro (hsame | ⟨hmem, -⟩)
    · exact hopen hsame
    · cases hmem

end GuardedPlan
