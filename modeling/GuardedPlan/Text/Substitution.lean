/-!
# Placeholder substitution

One left-to-right pass over a text. Where a placeholder begins, its value is written in its place, or the placeholder itself when the name has no value; what is written is never looked at again.
-/

namespace GuardedPlan.Text

/-- A placeholder at the front of a text: its name and how many characters it takes. -/
structure Placeholder where
  name : String
  width : Nat

def substitute (recognize : List Char → Option Placeholder) (value : String → Option String) :
    List Char → List Char
  | [] => []
  | c :: rest =>
    match recognize (c :: rest) with
    | none => c :: substitute recognize value rest
    | some found =>
      let written := (c :: rest).take found.width
      let inserted := match value found.name with
        | some text => text.toList
        | none => written
      inserted ++ substitute recognize value (rest.drop (found.width - 1))
termination_by text => text.length
decreasing_by all_goals (simp only [List.length_cons, List.length_drop]; omega)

def isNameStart (c : Char) : Bool :=
  ('A' ≤ c && c ≤ 'Z') || ('a' ≤ c && c ≤ 'z') || c = '_'

def isNameChar (c : Char) : Bool :=
  isNameStart c || ('0' ≤ c && c ≤ '9')

end GuardedPlan.Text
