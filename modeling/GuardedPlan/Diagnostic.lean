import GuardedPlan.Json.Basic

/-!
# Diagnostics

The one channel for compile-time findings. A diagnostic has a stable code, whose first letter is its severity, a message, and optionally a hint and the place in the document it is about. Only errors keep a plan from being emitted.
-/

namespace GuardedPlan

/-- How much a diagnostic weighs. -/
inductive Severity where
  | error
  | warn
  | info
deriving DecidableEq, Repr

def Severity.name : Severity → String
  | .error => "error"
  | .warn => "warn"
  | .info => "info"

inductive Code where
  | parse
  | unknownTarget
  | badManifest
  | missingMacro
  | unknownMacro
  | missingMacroArg
  | macroArgType
  | unknownEnsure
  | unknownAction
  | writeFileNoContent
  | writeOutside
  | deniedPath
  | scopeViolation
  | cmdNotAllowed
  | cmdDeniedSubstring
  | effectsScopeRequired
  | badWriteScope
  | stepNoEnsures
  | unverifiedAssumption
  | assumptionNoDecision
  | assumptionDecisionNotFinal
  | decisionDuplicate
  | decisionParentMissing
  | decisionCycle
  | stepNoClaims
  | unknownClaim
  | unclaimedInvariant
  | missingInvariants
  | stepDecisionMissing
  | stepDecisionNotFinal
  | requiresOrder
  | artifactNotWritten
deriving DecidableEq, Repr

namespace Code

def name : Code → String
  | parse => "E001_PARSE"
  | unknownTarget => "E100_UNKNOWN_TARGET"
  | badManifest => "E101_BAD_MANIFEST"
  | missingMacro => "E102_MISSING_MACRO"
  | unknownMacro => "E200_UNKNOWN_MACRO"
  | missingMacroArg => "E201_MISSING_MACRO_ARG"
  | macroArgType => "E202_MACRO_ARG_TYPE"
  | unknownEnsure => "E210_UNKNOWN_ENSURE"
  | unknownAction => "E211_UNKNOWN_ACTION"
  | writeFileNoContent => "E220_WRITEFILE_NO_CONTENT"
  | writeOutside => "E300_WRITE_OUTSIDE"
  | deniedPath => "E301_DENIED_PATH"
  | scopeViolation => "E302_SCOPE_VIOLATION"
  | cmdNotAllowed => "E310_CMD_NOT_ALLOWED"
  | cmdDeniedSubstring => "E311_CMD_DENIED_SUBSTRING"
  | effectsScopeRequired => "E320_EFFECTS_SCOPE_REQUIRED"
  | badWriteScope => "E321_BAD_WRITE_SCOPE"
  | stepNoEnsures => "E400_STEP_NO_ENSURES"
  | unverifiedAssumption => "E410_UNVERIFIED_ASSUMPTION"
  | assumptionNoDecision => "E411_ASSUMPTION_NO_DECISION"
  | assumptionDecisionNotFinal => "E412_ASSUMPTION_DECISION_NOT_FINAL"
  | decisionDuplicate => "E413_DECISION_DUPLICATE"
  | decisionParentMissing => "E414_DECISION_PARENT_MISSING"
  | decisionCycle => "E415_DECISION_CYCLE"
  | stepNoClaims => "E420_STEP_NO_CLAIMS"
  | unknownClaim => "E421_UNKNOWN_CLAIM"
  | unclaimedInvariant => "E422_UNCLAIMED_INVARIANT"
  | missingInvariants => "E424_MISSING_INVARIANTS"
  | stepDecisionMissing => "E425_STEP_DECISION_MISSING"
  | stepDecisionNotFinal => "E426_STEP_DECISION_NOT_FINAL"
  | requiresOrder => "W430_REQUIRES_ORDER"
  | artifactNotWritten => "E460_ARTIFACT_NOT_WRITTEN"

def all : List Code :=
  [parse, unknownTarget, badManifest, missingMacro, unknownMacro, missingMacroArg, macroArgType,
   unknownEnsure, unknownAction, writeFileNoContent, writeOutside, deniedPath, scopeViolation,
   cmdNotAllowed, cmdDeniedSubstring, effectsScopeRequired, badWriteScope, stepNoEnsures,
   unverifiedAssumption, assumptionNoDecision, assumptionDecisionNotFinal, decisionDuplicate,
   decisionParentMissing, decisionCycle, stepNoClaims, unknownClaim, unclaimedInvariant, missingInvariants,
   stepDecisionMissing, stepDecisionNotFinal, requiresOrder, artifactNotWritten]

def ofName? (published : String) : Option Code :=
  all.find? fun code => code.name = published

/-- The severity that the first letter of the name stands for. -/
def severity (code : Code) : Severity :=
  match code.name.toList.head? with
  | some 'W' => .warn
  | some 'I' => .info
  | _ => .error

end Code

/-- A finding about a document. -/
structure Diagnostic where
  code : Code
  message : String
  hint : Option String := none
  path : Option String := none
deriving DecidableEq, Repr

namespace Diagnostic

def severity (d : Diagnostic) : Severity :=
  d.code.severity

/-- Whether it keeps a plan from being emitted. -/
def isError (d : Diagnostic) : Bool :=
  d.severity = .error

def located (d : Diagnostic) (path : String) : Diagnostic :=
  { d with path := some path }

def advising (d : Diagnostic) (hint : String) : Diagnostic :=
  { d with hint := some hint }

/-- The text shown to a person: severity, code, place and message, and the hint on a line of its own. -/
def display (d : Diagnostic) : String :=
  d.severity.name ++ "[" ++ d.code.name ++ "]" ++
    (match d.path with
      | some path => " " ++ path
      | none => "") ++
    ": " ++ d.message ++
    (match d.hint with
      | some hint => "\n  hint: " ++ hint
      | none => "")

def encode (d : Diagnostic) : Json :=
  .object <|
    [("code", .string d.code.name), ("severity", .string d.severity.name), ("message", .string d.message)] ++
      (d.hint.map fun hint => ("hint", Json.string hint)).toList ++
      (d.path.map fun path => ("path", Json.string path)).toList

end Diagnostic

def hasErrors (diagnostics : List Diagnostic) : Bool :=
  diagnostics.any Diagnostic.isError

end GuardedPlan
