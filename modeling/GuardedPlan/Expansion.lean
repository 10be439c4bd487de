import GuardedPlan.Diagnostic
import GuardedPlan.Json.Printer
import GuardedPlan.Manifest.Basic
import GuardedPlan.Plan.Basic
import GuardedPlan.Text.Substitution

/-!
# Macro expansion

A macro call becomes one operation for every action of the macro's body, with the arguments written in place of their placeholders. Only declared arguments are placeholders, so a variable of the shell passes through untouched. An argument that is missing or has another type is a finding, and stands for the empty text.
-/

namespace GuardedPlan

/-- Operations together with the findings made on the way. -/
structure Expansion where
  ops : List Op
  diagnostics : List Diagnostic

namespace Macro

/-- The placeholder at the front of a text: a name between braces after a dollar sign, perhaps followed by three dots. -/
def placeholderAt? : List Char → Option Text.Placeholder
  | '$' :: '\x7b' :: rest =>
    match rest with
    | [] => none
    | c :: _ =>
      if Text.isNameStart c then
        let name := rest.takeWhile Text.isNameChar
        match rest.dropWhile Text.isNameChar with
        | '\x7d' :: _ => some ⟨String.ofList name, name.length + 3⟩
        | '.' :: '.' :: '.' :: '\x7d' :: _ => some ⟨String.ofList name, name.length + 6⟩
        | _ => none
      else none
  | _ => none

/-- A text with the placeholders of the given arguments replaced. -/
def fill (args : List (String × String)) (text : String) : String :=
  String.ofList (Text.substitute placeholderAt? (fun name => args.lookup name) text.toList)

/-- The strings of a list of values, if they are all strings. -/
def allTexts : List Json → Option (List String)
  | [] => some []
  | .string text :: rest => (allTexts rest).map (text :: ·)
  | _ :: _ => none

/-- The text of an argument, if its value fits its type. -/
def argumentText? : ArgumentType → Json → Option String
  | .json, value => some value.compact
  | .textList, .array items => (allTexts items).map fun texts => " ".intercalate texts
  | .textList, _ => none
  | _, .string text => some text
  | _, .number n => some (String.ofList n.printed)
  | _, .bool value => some (if value then "true" else "false")
  | _, _ => none

/-- What is wrong with the argument of a declared name. -/
def argumentFault? (name argument : String) (type : ArgumentType) (value : Option Json) : Option Diagnostic :=
  match value with
  | none => some ⟨.missingMacroArg, "macro '" ++ name ++ "' is missing argument '" ++ argument ++ "'", none, none⟩
  | some value =>
    if (argumentText? type value).isSome then none
    else
      some ⟨.macroArgType, "macro '" ++ name ++ "' argument '" ++ argument ++ "' expects " ++ type.name ++
        ", got " ++ value.kind.name, none, none⟩

def bind (declared : Table ArgumentType) (args : Table Json) : List (String × String) :=
  declared.entries.map fun (argument, type) =>
    (argument, ((args.get? argument).bind (argumentText? type)).getD "")

/-- The operation that an action of a body becomes. -/
def instantiate (args : List (String × String)) : MacroAction → Op
  | .run command => .run (fill args command)
  | .writeFile path content => .writeFile (fill args path) (fill args content)
  | .appendFile path content => .appendFile (fill args path) (fill args content)
  | .writeTemplate path template vars => .writeTemplate (fill args path) (fill args template) (vars.map (fill args))

def knownNames (macros : Table MacroDefinition) : String :=
  match macros.names with
  | [] => "this target declares no macros"
  | names => "known macros: " ++ ", ".intercalate names

/-- The expansion of a macro call that stands at a location. -/
def expand (manifest : Manifest) (name : String) (args : Table Json) (location : String) : Expansion :=
  match manifest.macros.get? name with
  | none =>
    ⟨[], [((⟨.unknownMacro, "unknown macro '" ++ name ++ "'", none, none⟩ : Diagnostic).located location).advising
      (knownNames manifest.macros)]⟩
  | some definition =>
    ⟨definition.expandsTo.map (instantiate (bind definition.args args)),
      definition.args.entries.filterMap fun (argument, type) =>
        (argumentFault? name argument type (args.get? argument)).map fun fault => fault.located location⟩

end Macro

end GuardedPlan
