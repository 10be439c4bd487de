import GuardedPlan.Decision.Tree
import GuardedPlan.Diagnostic
import GuardedPlan.Plan.Basic
import GuardedPlan.Policy.Command
import GuardedPlan.Policy.Write
import GuardedPlan.Spec.Basic

/-!
# Guardrails

Passes over built steps, each of which reports everything it finds. Places refer to the built plan, because macros make more operations than the spec has actions. Every pass but the one on the order of requirements can keep the plan from being emitted.
-/

namespace GuardedPlan.Guardrail

def stepPlace (index : Nat) : String :=
  "steps[" ++ toString index ++ "]"

/-- The place of an entry of a list inside a step. -/
def entryPlace (index : Nat) (list : String) (entry : Nat) : String :=
  stepPlace index ++ "." ++ list ++ "[" ++ toString entry ++ "]"

def finding (code : Code) (message place : String) : Diagnostic :=
  ⟨code, message, none, some place⟩

/-! ### Effects -/

def writeFinding (step target place : String) : WriteViolation → Diagnostic
  | .escapes =>
    (finding .writeOutside ("step '" ++ step ++ "' writes '" ++ target ++ "', which escapes the workspace")
      place).advising "write paths must be relative and must not contain '..'"
  | .outside =>
    finding .writeOutside ("step '" ++ step ++ "' writes '" ++ target ++ "', which matches no allowed glob") place
  | .denied glob =>
    finding .deniedPath
      ("step '" ++ step ++ "' writes '" ++ target ++ "', which matches denied glob '" ++ glob ++ "'") place
  | .outOfScope =>
    finding .scopeViolation
      ("step '" ++ step ++ "' writes '" ++ target ++ "', outside the declared write scopes") place

def stepEffects (policy : WritePolicy) (index : Nat) (step : Step) : List Diagnostic :=
  step.ops.zipIdx.flatMap fun (op, entry) =>
    match op.target? with
    | some target => (policy.violations target).map (writeFinding step.id target (entryPlace index "ops" entry))
    | none => []

/-- The policy that the scopes of a spec lead to, with what is wrong with them. -/
def scopedPolicy (spec : Spec) (policy : WritePolicy) : WritePolicy × List Diagnostic :=
  match spec.writeScopes with
  | none =>
    (policy,
      if spec.isExplicit then
        [(finding .effectsScopeRequired "effects.expansion is 'explicit' but no writeScopes are declared"
          "effects.writeScopes").advising "list the globs this spec may write, or use expansion: manifest"]
      else [])
  | some scopes =>
    match policy.confined scopes with
    | .ok confined => (confined, [])
    | .error bad =>
      (policy, [finding .badWriteScope ("invalid write scope: " ++ bad.message) "effects.writeScopes"])

/-- Every write against the globs of the manifest, the scopes of the spec and the working directory. -/
def effects (spec : Spec) (policy : WritePolicy) (steps : List Step) : List Diagnostic :=
  let (policy, found) := scopedPolicy spec policy
  found ++ steps.zipIdx.flatMap fun (step, index) => stepEffects policy index step

/-! ### Commands -/

def commandFinding (policy : CommandsPolicy) (step command place : String) : CommandViolation → Diagnostic
  | .notAllowed token =>
    (finding .cmdNotAllowed
      ("step '" ++ step ++ "' runs '" ++ command ++ "' but '" ++ token ++ "' is not an allowed prefix")
      place).advising ("allowed prefixes: " ++ ", ".intercalate policy.allowedPrefixes)
  | .deniedSubstring needle =>
    finding .cmdDeniedSubstring
      ("step '" ++ step ++ "' runs '" ++ command ++ "', which contains denied '" ++ needle ++ "'") place

/-- The findings about one entry of a step that may run a command. -/
def entryCommands (policy : CommandsPolicy) (step place : String) (command : Option String) : List Diagnostic :=
  match command with
  | some command => (policy.violations command).map (commandFinding policy step command place)
  | none => []

def stepCommands (policy : CommandsPolicy) (index : Nat) (step : Step) : List Diagnostic :=
  (step.ops.zipIdx.flatMap fun (op, entry) => entryCommands policy step.id (entryPlace index "ops" entry) op.command?) ++
    step.checks.zipIdx.flatMap fun (check, entry) =>
      entryCommands policy step.id (entryPlace index "checks" entry) check.command?

/-- Every command, of operations and of checks, against the command policy. -/
def commands (policy : CommandsPolicy) (steps : List Step) : List Diagnostic :=
  steps.zipIdx.flatMap fun (step, index) => stepCommands policy index step

/-! ### Proofs and claims -/

/-- The finding about a step that does something and checks nothing. -/
def stepProofs (index : Nat) (step : Step) : List Diagnostic :=
  if step.hasOps && step.checks.isEmpty then
    [(finding .stepNoEnsures ("step '" ++ step.id ++ "' has ops but no checks") (stepPlace index)).advising
      "add at least one `ensures` entry"]
  else []

def proofs (steps : List Step) : List Diagnostic :=
  steps.zipIdx.flatMap fun (step, index) => stepProofs index step

/-- What a pass over claims has found so far, and the declared invariants that were claimed. -/
structure ClaimTally where
  found : List Diagnostic
  claimed : List String

namespace ClaimTally

/-- A claim of a declared invariant is counted, any other is reported. -/
def count (invariants : List String) (index : Nat) (step : String) (tally : ClaimTally) (claim : String) : ClaimTally :=
  if invariants.contains claim then { tally with claimed := claim :: tally.claimed }
  else
    { tally with found := tally.found ++
        [finding .unknownClaim ("step '" ++ step ++ "' claims unknown invariant '" ++ claim ++ "'")
          (stepPlace index ++ ".claims")] }

/-- Counts the claims of a step. A step that does something has to have one. -/
def visit (invariants : List String) (tally : ClaimTally) (entry : Step × Nat) : ClaimTally :=
  let (step, index) := entry
  let asked :=
    if step.hasOps && step.claims.isEmpty then
      { tally with found := tally.found ++
          [finding .stepNoClaims ("step '" ++ step.id ++ "' has ops but claims no invariant") (stepPlace index)] }
    else tally
  step.claims.foldl (count invariants index step.id) asked

end ClaimTally

/-- The claims of the steps against declared invariants, each of which has to be claimed. -/
def claimsAgainst (invariants : List String) (steps : List Step) : List Diagnostic :=
  let tally := steps.zipIdx.foldl (ClaimTally.visit invariants) ⟨[], []⟩
  tally.found ++ (invariants.filter fun id => !tally.claimed.contains id).map fun id =>
    finding .unclaimedInvariant ("invariant '" ++ id ++ "' is not claimed by any step") "intent.invariants"

/-- The ids of the declared invariants, each once and in ascending order. -/
def invariantIds (spec : Spec) : List String :=
  (Table.ofList (spec.invariants.map fun invariant => (invariant.id, ()))).names

/-- The claims of the steps against the declared invariants; only version 2 is held to it. -/
def claims (spec : Spec) (steps : List Step) : List Diagnostic :=
  if spec.isCurrent then
    match invariantIds spec with
    | [] =>
      if steps.any Step.hasOps then
        [finding .missingInvariants "steps have ops but intent declares no invariants" "intent.invariants"]
      else []
    | invariants => claimsAgainst invariants steps
  else []

/-! ### Decisions -/

/-- The findings about repeated ids; `seen` holds the ids before the record at the index. -/
def duplicates (seen : List String) (index : Nat) : List Decision → List Diagnostic
  | [] => []
  | record :: rest =>
    (if seen.contains record.id then
      [finding .decisionDuplicate ("decision id '" ++ record.id ++ "' is declared more than once")
        ("decisions[" ++ toString index ++ "]")]
    else []) ++ duplicates (record.id :: seen) (index + 1) rest

def assumptionFindings (resolve : String → Option Decision) (index : Nat) (assumption : Assumption) :
    List Diagnostic :=
  let place := "assumptions[" ++ toString index ++ "]"
  (if assumption.status = .verified then []
    else [finding .unverifiedAssumption ("assumption '" ++ assumption.id ++ "' is not verified") place]) ++
    match resolve assumption.id with
    | none =>
      [finding .assumptionNoDecision ("assumption '" ++ assumption.id ++ "' has no decision with the same id") place]
    | some record =>
      if record.isFinal then []
      else
        [finding .assumptionDecisionNotFinal
          ("decision backing assumption '" ++ assumption.id ++ "' is not final") place]

/-- The findings about a decision that a step refers to. -/
def referenceFindings (resolve : String → Option Decision) (index : Nat) (step id : String) : List Diagnostic :=
  let place := stepPlace index ++ ".decisions"
  match resolve id with
  | none => [finding .stepDecisionMissing ("step '" ++ step ++ "' references missing decision '" ++ id ++ "'") place]
  | some record =>
    if record.isFinal then []
    else
      [finding .stepDecisionNotFinal ("step '" ++ step ++ "' references non-final decision '" ++ id ++ "'") place]

/-- Repeated ids, the backing of assumptions and the decisions that steps refer to. -/
def decisions (spec : Spec) (resolve : String → Option Decision) (steps : List Step) : List Diagnostic :=
  duplicates [] 0 spec.decisions ++
    (spec.assumptions.zipIdx.flatMap fun (assumption, index) => assumptionFindings resolve index assumption) ++
    steps.zipIdx.flatMap fun (step, index) => step.decisions.flatMap (referenceFindings resolve index step.id)

/-- The finding about decisions that form no forest; repeated ids are reported one by one elsewhere. -/
def treeFinding? (fault : DecisionFault) : Option Diagnostic :=
  match fault with
  | .duplicateId _ => none
  | .missingParent .. => some (finding .decisionParentMissing fault.message "decisions")
  | .cycle _ => some (finding .decisionCycle fault.message "decisions")

/-! ### Artifacts and order -/

/-- The paths that steps write, in the form that policies look at. -/
def written (steps : List Step) : List String :=
  ((steps.flatMap Step.ops).filterMap Op.target?).map Path.normalize

/-- Every artifact that has to be written is written by some step. -/
def artifacts (spec : Spec) (steps : List Step) : List Diagnostic :=
  match spec.artifacts with
  | none => []
  | some required =>
    required.zipIdx.flatMap fun (artifact, index) =>
      if artifact.mustWrite && !(written steps).contains (Path.normalize artifact.path) then
        [finding .artifactNotWritten ("artifact '" ++ artifact.path ++ "' must be written but no step writes it")
          ("artifacts.required[" ++ toString index ++ "]")]
      else []

/-- The findings about requirements that no earlier step meets; `earlier` holds the ids before the step at the index. -/
def requiresFrom (earlier : List String) (index : Nat) : List Step → List Diagnostic
  | [] => []
  | step :: rest =>
    ((step.requires.filter fun required => !earlier.contains required).map fun required =>
      (finding .requiresOrder
        ("step '" ++ step.id ++ "' requires '" ++ required ++ "', which is not an earlier step")
        (stepPlace index ++ ".requires")).advising
          "steps execute in list order; move the required step earlier") ++
      requiresFrom (step.id :: earlier) (index + 1) rest

/-- Every required step stands earlier; steps run in the order of the list all the same. -/
def requiresOrder (steps : List Step) : List Diagnostic :=
  requiresFrom [] 0 steps

end GuardedPlan.Guardrail
