import GuardedPlan.Decision.Tree
import GuardedPlan.Json.Basic

/-!
# Forests of decisions as values

A forest is reported by its roots and by the links of every decision. A link that is not there is left out.
-/

namespace GuardedPlan

def DecisionLinks.encode (links : DecisionLinks) : Json :=
  .object ((links.parent.toList.map fun parent => ("parent", Json.string parent)) ++
    (if links.children.isEmpty then [] else [("children", Json.strings links.children)]))

namespace DecisionTree

def encodeIndex (tree : DecisionTree) : Json :=
  .object (tree.index.entries.map fun entry => (entry.1, entry.2.encode))

def encode (tree : DecisionTree) : Json :=
  .object [("roots", Json.strings tree.roots), ("index", tree.encodeIndex)]

end DecisionTree

end GuardedPlan
