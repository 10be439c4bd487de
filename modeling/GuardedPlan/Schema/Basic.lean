import GuardedPlan.Json.Printer

/-!
# Schemas

A schema is a list of rules, in the order in which their findings are reported. An object rule that is closed looks after its own properties. A rule says nothing about values of another kind: that is left to the rule on kinds.
-/

namespace GuardedPlan

/-- The shapes of text that schemas ask for. -/
inductive TextPattern where
  | identifier
  | rooted
  | specHash
deriving DecidableEq, Repr

namespace TextPattern

def source : TextPattern → String
  | identifier => "^[A-Za-z0-9][A-Za-z0-9_.-]*$"
  | rooted => "^/"
  | specHash => "^sha256:[0-9a-f]\x7b64\x7d$"

def isWordChar (c : Char) : Bool :=
  ('A' ≤ c && c ≤ 'Z') || ('a' ≤ c && c ≤ 'z') || ('0' ≤ c && c ≤ '9')

def isHexChar (c : Char) : Bool :=
  ('0' ≤ c && c ≤ '9') || ('a' ≤ c && c ≤ 'f')

def accepts : TextPattern → List Char → Bool
  | identifier, c :: rest => isWordChar c && rest.all fun c => isWordChar c || c = '_' || c = '.' || c = '-'
  | identifier, [] => false
  | rooted, text => text.head? = some '/'
  | specHash, text =>
    text.take 7 = "sha256:".toList && (text.drop 7).length = 64 && (text.drop 7).all isHexChar

end TextPattern

/-- A constant that a schema may ask for. -/
inductive Constant where
  | text (value : String)
  | integer (value : Int)
deriving DecidableEq, Repr

namespace Constant

def toJson : Constant → Json
  | text value => .string value
  | integer value => .number (.int value)

def accepts : Constant → Json → Bool
  | text expected, .string found => found = expected
  | integer expected, .number (.int found) => found = expected
  | _, _ => false

end Constant

/-- One demand on a value. -/
inductive SchemaRule where
  | closed (properties : List (String × List SchemaRule))
  | members (schema : List SchemaRule)
  | constant (expected : Constant)
  | options (allowed : List String)
  | items (schema : List SchemaRule)
  | maxFields (count : Nat)
  | maximum (bound : Int)
  | minLength (count : Nat)
  | minFields (count : Nat)
  | minimum (bound : Int)
  | oneOf (branches : List (List SchemaRule))
  | pattern (shape : TextPattern)
  | properties (declared : List (String × List SchemaRule))
  | required (names : List String)
  | kinds (allowed : List Json.Kind)

/-- A list of rules, all of which a value has to meet. -/
abbrev Schema := List SchemaRule

/-- The ways in which a value misses a schema. -/
inductive SchemaIssue where
  | unexpectedFields (names : List String)
  | notConstant (expected : Constant)
  | notAnOption (value : Json) (allowed : List String)
  | tooManyFields (value : Json) (count : Nat)
  | tooFewFields (value : Json) (count : Nat)
  | aboveMaximum (value : Json) (bound : Int)
  | belowMinimum (value : Json) (bound : Int)
  | tooShort (value : Json) (count : Nat)
  | patternMissed (value : Json) (shape : TextPattern)
  | noBranch (value : Json)
  | manyBranches (value : Json)
  | missingField (name : String)
  | wrongKind (value : Json) (allowed : List Json.Kind)

namespace SchemaIssue

/-- A count with its noun, which takes an `s` unless the count is one. -/
def counted (count : Nat) (singular plural : String) : String :=
  toString count ++ " " ++ (if count = 1 then singular else plural)

/-- Up to three alternatives are listed; of more only two, with the number of the others. -/
def alternatives (shown : List String) : String :=
  if shown.length ≤ 3 then
    match shown.reverse with
    | [] => ""
    | [only] => only
    | last :: earlier => ", ".intercalate earlier.reverse ++ " or " ++ last
  else ", ".intercalate (shown.take 2) ++ " or " ++ toString (shown.length - 2) ++ " other candidates"

def message : SchemaIssue → String
  | unexpectedFields names =>
    "Additional properties are not allowed (" ++ ", ".intercalate (names.map fun name => "'" ++ name ++ "'") ++
      (if names.length = 1 then " was unexpected)" else " were unexpected)")
  | notConstant expected => expected.toJson.compact ++ " was expected"
  | notAnOption value allowed =>
    value.compact ++ " is not one of " ++ alternatives (allowed.map fun option => (Json.string option).compact)
  | tooManyFields value count => value.compact ++ " has more than " ++ counted count "property" "properties"
  | tooFewFields value count => value.compact ++ " has less than " ++ counted count "property" "properties"
  | aboveMaximum value bound => value.compact ++ " is greater than the maximum of " ++ toString bound
  | belowMinimum value bound => value.compact ++ " is less than the minimum of " ++ toString bound
  | tooShort value count => value.compact ++ " is shorter than " ++ counted count "character" "characters"
  | patternMissed value shape => value.compact ++ " does not match \"" ++ shape.source ++ "\""
  | noBranch value => value.compact ++ " is not valid under any of the schemas listed in the 'oneOf' keyword"
  | manyBranches value =>
    value.compact ++ " is valid under more than one of the schemas listed in the 'oneOf' keyword"
  | missingField name => (Json.string name).compact ++ " is a required property"
  | wrongKind value allowed =>
    match allowed with
    | [kind] => value.compact ++ " is not of type \"" ++ kind.name ++ "\""
    | kinds =>
      value.compact ++ " is not of types " ++ ", ".intercalate (kinds.map fun kind => "\"" ++ kind.name ++ "\"")

end SchemaIssue

namespace Schema

mutual

def ruleIssues : SchemaRule → Json → List SchemaIssue
  | .closed properties, value =>
    match value with
    | .object fields =>
      let unexpected := (fields.filter fun field => (propertyIssues properties field.1 field.2).isNone).map Prod.fst
      (fields.flatMap fun field => (propertyIssues properties field.1 field.2).getD []) ++
        (if unexpected.isEmpty then [] else [.unexpectedFields unexpected])
    | _ => []
  | .members schema, value =>
    match value with
    | .object fields => fields.flatMap fun field => issues schema field.2
    | _ => []
  | .constant expected, value => if expected.accepts value then [] else [.notConstant expected]
  | .options allowed, value =>
    match value with
    | .string text => if allowed.contains text then [] else [.notAnOption value allowed]
    | _ => [.notAnOption value allowed]
  | .items schema, value =>
    match value with
    | .array items => items.flatMap fun item => issues schema item
    | _ => []
  | .maxFields count, value =>
    match value with
    | .object fields => if count < fields.length then [.tooManyFields value count] else []
    | _ => []
  | .maximum bound, value =>
    match value with
    | .number n => if bound * Binary64.one < n.units then [.aboveMaximum value bound] else []
    | _ => []
  | .minLength count, value =>
    match value with
    | .string text => if text.length < count then [.tooShort value count] else []
    | _ => []
  | .minFields count, value =>
    match value with
    | .object fields => if fields.length < count then [.tooFewFields value count] else []
    | _ => []
  | .minimum bound, value =>
    match value with
    | .number n => if n.units < bound * Binary64.one then [.belowMinimum value bound] else []
    | _ => []
  | .oneOf branches, value =>
    match branchesMet branches value with
    | 0 => [.noBranch value]
    | 1 => []
    | _ => [.manyBranches value]
  | .pattern shape, value =>
    match value with
    | .string text => if shape.accepts text.toList then [] else [.patternMissed value shape]
    | _ => []
  | .properties declared, value =>
    match value with
    | .object fields => declaredIssues declared fields
    | _ => []
  | .required names, value =>
    match value with
    | .object fields =>
      (names.filter fun name => (Json.lookup name fields).isNone).map .missingField
    | _ => []
  | .kinds allowed, value => if allowed.contains value.kind then [] else [.wrongKind value allowed]

/-- The issues of a value under a schema, rule by rule. -/
def issues : List SchemaRule → Json → List SchemaIssue
  | [], _ => []
  | rule :: rest, value => ruleIssues rule value ++ issues rest value

/-- The issues of a member under the property of its name; nothing when there is no such property. -/
def propertyIssues : List (String × List SchemaRule) → String → Json → Option (List SchemaIssue)
  | [], _, _ => none
  | (name, schema) :: rest, key, value =>
    if name = key then some (issues schema value) else propertyIssues rest key value

/-- The issues of the declared properties that are present, in the order of declaration. -/
def declaredIssues : List (String × List SchemaRule) → List (String × Json) → List SchemaIssue
  | [], _ => []
  | (name, schema) :: rest, fields =>
    (match Json.lookup name fields with
      | some value => issues schema value
      | none => []) ++ declaredIssues rest fields

def branchesMet : List (List SchemaRule) → Json → Nat
  | [], _ => 0
  | branch :: rest, value => (if (issues branch value).isEmpty then 1 else 0) + branchesMet rest value

end

def accepts (schema : Schema) (value : Json) : Bool :=
  (issues schema value).isEmpty

/-- The issues in words, on one line. -/
def report (found : List SchemaIssue) : String :=
  "; ".intercalate (found.map SchemaIssue.message)

end Schema

end GuardedPlan
