import GuardedPlan.Yaml.Node
import GuardedPlan.Yaml.Resolution

/-!
# The value of a YAML text

A document is read straight into a JSON value. The keys of a mapping are taken as their text, and of equal keys the last one wins. An alias repeats the node of its anchor; nesting is bounded, and so is the number of aliases followed, so that a document cannot grow without end.

An anchor gets as its number how many names were anchored before it. Anchoring a name again does not raise that count, so a later anchor may take over a number; an alias stands for the last node of its number.
-/

namespace GuardedPlan.Yaml

/-- A node whose aliases are numbers. -/
inductive Numbered where
  | alias (number : Nat)
  | scalar (tag : Option (List Char)) (style : ScalarStyle) (text : List Char)
  | sequence (tag : Option (List Char)) (items : List Numbered)
  | mapping (tag : Option (List Char)) (entries : List (Numbered × Numbered))

/-- The anchors met so far: the number of every name, how many nodes were anchored, and the anchored nodes with their numbers and the order in which they began. -/
structure Anchors where
  numbers : List (List Char × Nat) := []
  begun : Nat := 0
  nodes : List (Nat × Nat × Numbered) := []

namespace Anchors

def begin? (anchors : Anchors) (name : Option (List Char)) : Option (Nat × Nat) × Anchors :=
  match name with
  | none => (none, anchors)
  | some name =>
    let number := anchors.numbers.length
    let others := anchors.numbers.filter fun entry => entry.1 ≠ name
    (some (number, anchors.begun), { anchors with numbers := (name, number) :: others, begun := anchors.begun + 1 })

def keep (anchors : Anchors) (place : Option (Nat × Nat)) (node : Numbered) : Anchors :=
  match place with
  | none => anchors
  | some (number, order) => { anchors with nodes := (number, order, node) :: anchors.nodes }

/-- The node that a number stands for: the one that began last. -/
def node? (anchors : Anchors) (number : Nat) : Option Numbered :=
  ((anchors.nodes.filter fun entry => entry.1 = number).foldl
    (fun best entry =>
      match best with
      | some (order, _) => if order < entry.2.1 then some entry.2 else best
      | none => some entry.2)
    none).map Prod.snd

end Anchors

mutual

/-- Numbers the aliases of a node; an error for an alias whose anchor was not met. -/
def numberNode (anchors : Anchors) : Node → Option (Numbered × Anchors)
  | .alias name => (anchors.numbers.lookup name).map fun number => (.alias number, anchors)
  | .scalar properties style text =>
    let (place, anchors) := anchors.begin? properties.anchor
    let node := Numbered.scalar properties.tag style text
    some (node, anchors.keep place node)
  | .sequence properties items =>
    let (place, anchors) := anchors.begin? properties.anchor
    (numberItems anchors items).map fun (items, anchors) =>
      let node := Numbered.sequence properties.tag items
      (node, anchors.keep place node)
  | .mapping properties entries =>
    let (place, anchors) := anchors.begin? properties.anchor
    (numberEntries anchors entries).map fun (entries, anchors) =>
      let node := Numbered.mapping properties.tag entries
      (node, anchors.keep place node)

def numberItems (anchors : Anchors) : List Node → Option (List Numbered × Anchors)
  | [] => some ([], anchors)
  | item :: rest =>
    (numberNode anchors item).bind fun (item, anchors) =>
      (numberItems anchors rest).map fun (rest, anchors) => (item :: rest, anchors)

def numberEntries (anchors : Anchors) : List (Node × Node) → Option (List (Numbered × Numbered) × Anchors)
  | [] => some ([], anchors)
  | (key, value) :: rest =>
    (numberNode anchors key).bind fun (key, anchors) =>
      (numberNode anchors value).bind fun (value, anchors) =>
        (numberEntries anchors rest).map fun (rest, anchors) => ((key, value) :: rest, anchors)

end

mutual

/-- The size of a node: one for an alias or a scalar, two more than its parts for a collection. -/
def Node.size : Node → Nat
  | .alias _ => 1
  | .scalar .. => 1
  | .sequence _ items => itemsSize items + 2
  | .mapping _ entries => entriesSize entries + 2

def itemsSize : List Node → Nat
  | [] => 0
  | item :: rest => item.size + itemsSize rest

def entriesSize : List (Node × Node) → Nat
  | [] => 0
  | (key, value) :: rest => key.size + value.size + entriesSize rest

end

/-- The node itself, or the one an alias stands for at the cost of one of the aliases that may still be followed. -/
def follow (anchors : Anchors) (left : Nat) : Numbered → Option (Numbered × Nat)
  | .alias number =>
    match left with
    | 0 => none
    | left + 1 => (anchors.node? number).map fun node => (node, left)
  | node => some (node, left)

/-- Whether a tag is one that a collection may have. -/
def acceptsTag (tag : Option (List Char)) : Bool :=
  tag.all fun tag => !(Scalar.isLocalTag tag && Scalar.isTextTag tag)

def keyText (anchors : Anchors) (left : Nat) (node : Numbered) : Option (String × Nat) :=
  (follow anchors left node).bind fun (node, left) =>
    match node with
    | .scalar _ _ text => some (String.ofList text, left)
    | _ => none

/-- The values of items in order, with what is left of the aliases after each. -/
def itemValues (valueOf : Nat → Numbered → Option (Json × Nat)) (left : Nat) :
    List Numbered → Option (List Json × Nat)
  | [] => some ([], left)
  | item :: rest =>
    (valueOf left item).bind fun (value, left) =>
      (itemValues valueOf left rest).map fun (values, left) => (value :: values, left)

/-- The fields of entries in order, with what is left of the aliases after each. -/
def entryValues (anchors : Anchors) (valueOf : Nat → Numbered → Option (Json × Nat)) (left : Nat) :
    List (Numbered × Numbered) → Option (List (String × Json) × Nat)
  | [] => some ([], left)
  | (key, value) :: rest =>
    (keyText anchors left key).bind fun (key, left) =>
      (valueOf left value).bind fun (value, left) =>
        (entryValues anchors valueOf left rest).map fun (fields, left) => ((key, value) :: fields, left)

def scalarValue (tag : Option (List Char)) (style : ScalarStyle) (text : List Char) : Option Json :=
  match tag with
  | some tag => Scalar.taggedValue tag style text
  | none => Scalar.untaggedValue style text

/-- The value of a node inside of which `depth` levels may still open and `left` aliases be followed. -/
def valueOf (anchors : Anchors) (depth left : Nat) (node : Numbered) : Option (Json × Nat) :=
  (follow anchors left node).bind fun (node, left) =>
    match depth, node with
    | _, .scalar tag style text => (scalarValue tag style text).map fun value => (value, left)
    | depth + 1, .sequence tag items =>
      if acceptsTag tag then
        (itemValues (valueOf anchors depth) left items).map fun (values, left) => (.array values, left)
      else none
    | depth + 1, .mapping tag entries =>
      if acceptsTag tag then
        (entryValues anchors (valueOf anchors depth) left entries).map fun (fields, left) =>
          (.object (Json.sortFields fields), left)
      else none
    | _, _ => none
termination_by depth

/-- The levels of collections that a text may nest. -/
def maxDepth : Nat := 128

/-- The value of a whole text, if it is YAML. -/
def parse? (text : String) : Option Json :=
  (Token.scan? text).bind fun tokens =>
    (Node.ofTokens? tokens).bind fun node =>
      (numberNode {} node).bind fun (numbered, anchors) =>
        (valueOf anchors maxDepth (100 * node.size) numbered).map Prod.fst

end GuardedPlan.Yaml
