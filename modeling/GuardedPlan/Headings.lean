import GuardedPlan.Text.Lines
import GuardedPlan.Text.Lowercase

/-!
# Section headings

A heading is a line of one to six hash marks followed by a space, a tab or nothing. Its title is what follows, without surrounding white space and without closing hash marks. Titles are compared in lower case.
-/

namespace GuardedPlan.Headings

def title? (line : List Char) : Option (List Char) :=
  let line := Text.trimStart line
  let level := (line.takeWhile (· = '#')).length
  if level = 0 ∨ 6 < level then none
  else
    let body := line.drop level
    let opened := match body with
      | [] => true
      | c :: _ => c = ' ' || c = '\t'
    if opened then some (Text.trimEnd (Text.dropEndWhile (· = '#') (Text.trim body))) else none

def hasSection (document title : String) : Bool :=
  let wanted := Text.lowercase (Text.trim title.toList)
  (Text.lines document.toList).any fun line =>
    match title? line with
    | some found => Text.lowercase found = wanted
    | none => false

end GuardedPlan.Headings
