import GuardedPlan.Text.Blank
import GuardedPlan.Text.Substitution

/-!
# Templates

A template variable is a name between double braces, with optional white space around it. Names without a value are left as written, so sources that are full of braces pass through untouched.
-/

namespace GuardedPlan.Template

/-- A character that may follow the first one of a variable name. -/
def isVariableChar (c : Char) : Bool :=
  Text.isNameChar c || c = '.' || c = '-'

/-- The variable at the front of a text, if one stands there. -/
def variableAt? (input : List Char) : Option Text.Placeholder :=
  match input with
  | '\x7b' :: '\x7b' :: rest =>
    let lead := rest.takeWhile Text.isBlank
    let rest := rest.dropWhile Text.isBlank
    match rest with
    | [] => none
    | c :: _ =>
      if Text.isNameStart c then
        let name := rest.takeWhile isVariableChar
        let rest := rest.dropWhile isVariableChar
        let trail := rest.takeWhile Text.isBlank
        match rest.dropWhile Text.isBlank with
        | '\x7d' :: '\x7d' :: _ =>
          some ⟨String.ofList name, lead.length + name.length + trail.length + 4⟩
        | _ => none
      else none
  | _ => none

/-- The source with every known variable replaced by its value. -/
def render (vars : List (String × String)) (source : String) : String :=
  String.ofList (Text.substitute variableAt? (fun name => vars.lookup name) source.toList)

end GuardedPlan.Template
