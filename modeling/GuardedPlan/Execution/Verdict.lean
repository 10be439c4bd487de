import GuardedPlan.Execution.Basic
import GuardedPlan.Headings
import GuardedPlan.Repository.Basic
import GuardedPlan.Similarity
import GuardedPlan.Text.Blank
import GuardedPlan.Text.Quoted

/-!
# Evaluating checks

A check passes, falls short or cannot be evaluated. Whether a shortfall stops the run is part of the verdict: only a fuzzy expectation that does not gate lets the run go on.
-/

namespace GuardedPlan

inductive CheckFault where
  | unstarted (message : String)
  | escapes (path : String)
  | reading (path : String) (fault : FileFault)
  | notDirectory (fault : FileFault)
  | glob (source : String) (bad : BadGlob)
  | listing (path : String) (fault : ListingFault)
deriving DecidableEq, Repr

def CheckFault.message : CheckFault → String
  | unstarted message => message
  | escapes path => "check path escapes the working directory: " ++ path
  | reading path fault => "read " ++ path ++ ": " ++ fault.message
  | notDirectory fault => "spawn git rev-parse --is-inside-work-tree: " ++ fault.message
  | glob source bad => "invalid glob '" ++ source ++ "': " ++ bad.message
  | listing path (.pathspec .nulInPath) =>
    "spawn git ls-files -z -- " ++ path ++ ": " ++ PathspecFault.nulInPath.message
  | listing path fault => "git ls-files -z -- " ++ path ++ " failed: " ++ String.ofList (Text.trim fault.message.toList)

/-- How a check falls short. -/
inductive Shortfall where
  | missing (path : String)
  | lacks (path text : String)
  | noSection (path title : String)
  | unlike (path text : String) (score : Score) (threshold : Binary64)
  | exited (command : String) (code : Option Int)
  | noRouting
  | missingPage (page route : String)
  | missingRoutes (table : String)
  | undeclared (table route : String)
  | notWorkTree (directory : String)
  | tracked (glob directory : String) (found expected : List String)
deriving DecidableEq, Repr

def Shortfall.message : Shortfall → String
  | missing path => "'" ++ path ++ "' does not exist"
  | lacks path text => "'" ++ path ++ "' does not contain " ++ Text.quoted text
  | noSection path title => "'" ++ path ++ "' has no section titled " ++ Text.quoted title
  | unlike path text score threshold =>
    "'" ++ path ++ "' best match for " ++ Text.quoted text ++ " scored " ++ score.toBinary64.twoPlaces ++
      " (< " ++ threshold.twoPlaces ++ ")"
  | exited command code => "\x60" ++ command ++ "\x60 exited with " ++ CommandResult.codeText code
  | noRouting => "target declares no routing semantics"
  | missingPage page route => "page '" ++ page ++ "' for route '" ++ route ++ "' does not exist"
  | missingRoutes table => "routes file '" ++ table ++ "' does not exist"
  | undeclared table route => "routes file '" ++ table ++ "' does not declare '" ++ route ++ "'"
  | notWorkTree directory => directory ++ " is not inside a git work tree"
  | tracked glob directory found expected =>
    "tracked files matching '" ++ glob ++ "' under '" ++ directory ++ "' are [" ++ ", ".intercalate found ++
      "], expected [" ++ ", ".intercalate expected ++ "]"

/-- What a check finds. -/
inductive Verdict where
  | pass
  | warn (shortfall : Shortfall)
  | fail (shortfall : Shortfall)
deriving DecidableEq, Repr

namespace Verdict

/-- Passes when the condition holds, and stops the run otherwise. -/
def require (holds : Bool) (shortfall : Shortfall) : Verdict :=
  if holds then pass else fail shortfall

/-- The verdict on the text of a file, which has to be there. -/
def ofText (text : Option String) (absent : Shortfall) (judge : String → Verdict) : Verdict :=
  match text with
  | some text => judge text
  | none => fail absent

end Verdict

namespace FileTree

def existsBelow (tree : FileTree) (directory path : String) : Except CheckFault Bool :=
  if Path.isContained path then .ok (tree.pathExists (Path.below directory path)) else .error (.escapes path)

/-- The text of a file below a directory, if there is such a file. -/
def textBelow (tree : FileTree) (directory path : String) : Except CheckFault (Option String) :=
  if Path.isContained path then
    (tree.readIfFile (Path.below directory path)).mapError (.reading (Path.below directory path))
  else .error (.escapes path)

end FileTree

namespace Routing

/-- The spellings of a route that count as declared in a table: between any of the three kinds of quotes. -/
def quotedForms (route : String) : List String :=
  ["\"" ++ route ++ "\"", "'" ++ route ++ "'", "\x60" ++ route ++ "\x60"]

/-- Whether a route exists in an application directory below the working directory. -/
def verdict (routing : Option Routing) (tree : FileTree) (workDirectory directory route : String) :
    Except CheckFault Verdict :=
  match routing with
  | none => .ok (.fail .noRouting)
  | some (fileBased pagesDirectory pageFile) =>
    let page := pagePath pagesDirectory pageFile directory route
    (tree.existsBelow workDirectory page).map (Verdict.require · (.missingPage page route))
  | some (routerTable routesFile) =>
    let table := Path.join [directory, routesFile]
    (tree.textBelow workDirectory table).map fun text =>
      Verdict.ofText text (.missingRoutes table) fun text =>
        .require ((quotedForms route).any fun form => Text.contains form.toList text.toList) (.undeclared table route)

end Routing

namespace TrackedFiles

/-- What has to stand before the paths of files in a directory: its path without leading `./` and trailing slashes, and a slash. -/
def directoryLead (directory : String) : List Char :=
  match Text.dropEndWhile (· = '/') (Path.dropDots directory.toList) with
  | [] => []
  | ['.'] => []
  | path => path ++ ['/']

/-- The listed files relative to a directory that one of some globs matches, in ascending order. -/
def matching (files : List String) (directory : String) (globs : List Glob) : List String :=
  let lead := directoryLead directory
  let inside := files.filterMap fun file =>
    if lead.isPrefixOf file.toList then some (String.ofList (file.toList.drop lead.length)) else none
  (inside.filter (Glob.anyAccepts globs)).mergeSort fun a b => decide (a ≤ b)

/-- Whether the tracked files in a directory that a glob matches are exactly the allowed ones. The listing of tracked files is missing outside of work trees. -/
def verdict (list? : Option (String → Except ListingFault (List String))) (workDirectory directory pattern : String)
    (allow : List String) : Except CheckFault Verdict :=
  match list? with
  | none => .ok (.fail (.notWorkTree workDirectory))
  | some list =>
    match Glob.parseAll [pattern] with
    | .error bad => .error (.glob pattern bad)
    | .ok globs =>
      match list directory with
      | .error fault => .error (.listing directory fault)
      | .ok files =>
        let found := matching files directory globs
        let expected := allow.mergeSort fun a b => decide (a ≤ b)
        .ok (.require (decide (found = expected)) (.tracked pattern directory found expected))

end TrackedFiles

def Check.evaluate {σ : Type} (check : Check) (host : Host σ) (manifest : Manifest) (world : World σ) :
    Except CheckFault Verdict × World σ :=
  let tree := world.tree
  match check with
  | .fileExists path | .artifactExists path =>
    ((tree.existsBelow host.directory path).map (Verdict.require · (.missing path)), world)
  | .fileContains path text | .docContains path text =>
    ((tree.textBelow host.directory path).map fun content =>
      .ofText content (.missing path) fun content =>
        .require (Text.contains text.toList content.toList) (.lacks path text), world)
  | .commandSucceeds command =>
    match host.command command world with
    | (.error message, world) => (.error (.unstarted message), world)
    | (.ok result, world) => (.ok (.require result.succeeded (.exited command result.code)), world)
  | .routeExists directory route =>
    (Routing.verdict manifest.semantics.routing tree host.directory directory route, world)
  | .docSection path title =>
    ((tree.textBelow host.directory path).map fun content =>
      .ofText content (.missing path) fun content => .require (Headings.hasSection content title) (.noSection path title),
      world)
  | .docResembles path text threshold gate =>
    ((tree.textBelow host.directory path).map fun content =>
      .ofText content (.missing path) fun content =>
        let score := Similarity.bestScore content.toList text.toList
        if score.reaches threshold then .pass
        else if gate then .fail (.unlike path text score threshold)
        else .warn (.unlike path text score threshold), world)
  | .trackedOnly directory pattern allow =>
    match tree.spot host.directory, tree.enterFault? host.directory with
    | .ok spot, none =>
      let list? := (Repository.of? tree spot.location).map fun repository => repository.list tree spot.location
      (TrackedFiles.verdict list? host.directory directory pattern allow, world)
    | _, some fault => (.error (.notDirectory fault), world)
    | .error fault, none => (.error (.notDirectory fault), world)

theorem Check.logsOnly_evaluate {σ : Type} (check : Check) (host : Host σ) (manifest : Manifest) (world : World σ) :
    world.LogsOnly check.command? (check.evaluate host manifest world).2 := by
  cases check with
  | commandSucceeds command =>
    have hran := host.logsOnly_command command world
    rw [evaluate]
    cases hcommand : host.command command world with
    | mk result after =>
      rw [hcommand] at hran
      cases result with
      | error message => exact hran
      | ok result => exact hran
  | trackedOnly directory pattern allow =>
    rw [evaluate]
    dsimp only
    split
    · exact World.logsOnly_of_log_eq rfl _
    · exact World.logsOnly_of_log_eq rfl _
    · exact World.logsOnly_of_log_eq rfl _
  | _ => exact World.logsOnly_of_log_eq rfl _

end GuardedPlan
