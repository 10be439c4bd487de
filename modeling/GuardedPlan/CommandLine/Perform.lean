import GuardedPlan.CommandLine.Help
import GuardedPlan.Config
import GuardedPlan.Decision.Codec
import GuardedPlan.Execution.Run
import GuardedPlan.Plan.Storage
import GuardedPlan.Registry.Directory
import GuardedPlan.Shell.Run

/-!
# Performing commands

Every command works on a file tree and comes to an exit code and to what it prints: zero when it succeeded, one for input that cannot be used, two for a plan or a spec that is rejected, three for a run that failed on its way.
-/

namespace GuardedPlan.CommandLine

inductive Ending where
  | ok
  | invalid
  | rejected
  | failed
deriving DecidableEq, Repr

def Ending.code : Ending → Nat
  | ok => 0
  | invalid => 1
  | rejected => 2
  | failed => 3

structure Outcome where
  ending : Ending
  tree : FileTree
  stdout : String := ""
  stderr : String := ""

namespace Outcome

def invalid (tree : FileTree) (message : String) : Outcome :=
  { ending := .invalid, tree := tree, stderr := message ++ "\n" }

def rejected (tree : FileTree) (message : String) : Outcome :=
  { ending := .rejected, tree := tree, stderr := message ++ "\n" }

end Outcome

/-- The text of a file that a command needs; the error is what is said when it cannot be read. -/
def readText (tree : FileTree) (path : String) : Except String String :=
  (tree.readText path).mapError fun fault => "read " ++ path ++ ": " ++ fault.message

def compilationJson (compilation : Compilation) : Json :=
  .object ([("ok", .bool compilation.plan.isSome), ("diagnostics", .array (compilation.diagnostics.map Diagnostic.encode))] ++
    compilation.plan.toList.map fun plan => ("plan", plan.encode))

/-- What is said about a compilation in words: findings, then what became of the plan. -/
def compilationNotes (compilation : Compilation) (out : Option String) : String :=
  unlines (compilation.diagnostics.map Diagnostic.display) ++
    match compilation.plan, out with
    | some _, none => ""
    | some plan, some path => "wrote " ++ path ++ " (" ++ toString plan.steps.length ++ " steps)\n"
    | none, _ =>
      "compile rejected: " ++ toString (compilation.diagnostics.filter Diagnostic.isError).length ++ " error(s)\n"

def report (compilation : Compilation) (out : Option String) (format : Format) (tree : FileTree) : Outcome :=
  let ending : Ending := if compilation.plan.isSome then .ok else .rejected
  match format with
  | .json => { ending := ending, tree := tree, stdout := (compilationJson compilation).pretty ++ "\n" }
  | .text =>
    let printed := match compilation.plan, out with
      | some plan, none => plan.canonicalText
      | _, _ => ""
    { ending := ending, tree := tree, stdout := printed, stderr := compilationNotes compilation out }

def performCompile (spec registry : String) (out : Option String) (format : Format) (tree : FileTree) : Outcome :=
  match readText tree spec with
  | .error message => .invalid tree message
  | .ok text =>
    let compilation := compile text ((DirectoryRegistry.mk registry).toRegistry.manifests tree)
    match out, compilation.plan with
    | some path, some plan =>
      match plan.save tree path with
      | (.error fault, tree) => .invalid tree fault.message
      | (.ok (), tree) => report compilation out format tree
    | _, _ => report compilation out format tree

def runnerOf (config : Config) : Option Shell.Runner :=
  Shell.Runner.of? config.shell (if config.timeoutSeconds = 0 then none else some (config.timeoutSeconds * 1000))

/-- Why a plan is not run for a spec; nothing when the plan was compiled from it. -/
def hashMismatch? (tree : FileTree) (spec : Option String) (plan : Plan) : Except String (Option String) :=
  match spec with
  | none => .ok none
  | some path =>
    (readText tree path).map fun text =>
      let actual := Compilation.specHash text
      if actual = plan.specHash then none
      else some ("spec " ++ path ++ " hashes to " ++ actual ++ ", plan was compiled from " ++ plan.specHash)

/-- Runs a plan on a host and says what came of it. -/
def execute (plan : Plan) (host : Host Unit) (tree : FileTree) : Outcome :=
  let (result, world) := plan.execute host { tree := tree, state := () }
  match result with
  | .ok count =>
    { ending := .ok, tree := world.tree, stderr := world.stderr,
      stdout := world.stdout ++ "plan complete: " ++ toString count ++ " step(s), " ++
        toString world.warnings.length ++ " warning(s)\n" }
  | .error failure =>
    let ending : Ending := match failure with
      | .rejected _ => .rejected
      | .stopped .. => .failed
    { ending := ending, tree := world.tree, stdout := world.stdout,
      stderr := world.stderr ++ failure.message ++ "\n" }

def performRun (path registry workDirectory : String) (config spec : Option String) (tree : FileTree) : Outcome :=
  match Plan.load tree path with
  | .error fault => .invalid tree fault.message
  | .ok plan =>
    match hashMismatch? tree spec plan with
    | .error message => .invalid tree message
    | .ok (some message) => .rejected tree message
    | .ok none =>
      match Config.load tree (config.getD (Path.below workDirectory Config.defaultPath)) with
      | .error fault => .invalid tree fault.message
      | .ok config =>
        match runnerOf config with
        | none => .invalid tree Shell.Runner.blankMessage
        | some runner => execute plan (runner.host (DirectoryRegistry.mk registry).toRegistry workDirectory) tree

def performDecisions (spec : String) (tree : FileTree) : Outcome :=
  match readText tree spec with
  | .error message => .invalid tree message
  | .ok text =>
    match Spec.parse text with
    | .error finding => .invalid tree finding.display
    | .ok spec =>
      match DecisionTree.build spec.decisions with
      | .error fault => .rejected tree fault.message
      | .ok forest => { ending := .ok, tree := tree, stdout := forest.encode.canonical.pretty ++ "\n" }

def Command.perform (command : Command) (tree : FileTree) : Outcome :=
  match command with
  | .compile spec registry out format => performCompile spec registry out format tree
  | .run plan registry workDirectory config spec => performRun plan registry workDirectory config spec tree
  | .decisions spec => performDecisions spec tree

def refusalCode : Nat := 2

def Request.perform (request : Request) (tree : FileTree) : Outcome :=
  match request with
  | .command asked => asked.perform tree
  | .version => { ending := .ok, tree := tree, stdout := programName ++ " " ++ programVersion ++ "\n" }
  | .help subject => { ending := .ok, tree := tree, stdout := helpText subject }

end GuardedPlan.CommandLine
