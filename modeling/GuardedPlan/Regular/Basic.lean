/-!
# Regular expressions

Expressions over the characters of a line, with groups that can be referred to. A match is looked for by going through an expression with all places that can be reached so far; of the places with one position only the first one is kept, so that the work stays small. The longest match at the first possible start counts.
-/

namespace GuardedPlan

inductive Regular where
  | empty
  | chars (negated : Bool) (ranges : List (Char × Char))
  | both (first second : Regular)
  | either (first second : Regular)
  | repeated (body : Regular) (least : Nat) (most : Option Nat)
  | group (index : Nat) (body : Regular)
  | reference (index : Nat)
  | start
  | finish
  | wordEdge (wanted : Bool)
  | wordStart
  | wordFinish

namespace Regular

/-- How characters are compared. -/
structure Manner where
  ignoresCase : Bool := false

/-- A place in a line on the way through an expression: what came before it in reverse, what is left, how far it is, and where groups were found. -/
structure Place where
  before : List Char
  rest : List Char
  position : Nat
  groups : List (Nat × Nat × Nat) := []

def Place.ofLine (line : List Char) : Place :=
  ⟨[], line, 0, []⟩

def Place.next? (place : Place) : Option (Char × Place) :=
  match place.rest with
  | [] => none
  | c :: rest => some (c, { place with before := c :: place.before, rest := rest, position := place.position + 1 })

def Place.skip (place : Place) (count : Nat) : Place :=
  { place with
    before := (place.rest.take count).reverse ++ place.before
    rest := place.rest.drop count
    position := place.position + (place.rest.take count).length }

def isWordChar (c : Char) : Bool :=
  c.isAlphanum || c = '_'

def inRanges (ranges : List (Char × Char)) (c : Char) : Bool :=
  ranges.any fun (first, last) => first ≤ c && c ≤ last

def holds (manner : Manner) (negated : Bool) (ranges : List (Char × Char)) (c : Char) : Bool :=
  let found :=
    if manner.ignoresCase then inRanges ranges c || inRanges ranges c.toLower || inRanges ranges c.toUpper
    else inRanges ranges c
  found != negated

def isSame (manner : Manner) (a b : Char) : Bool :=
  a = b || (manner.ignoresCase && a.toLower = b.toLower)

/-- Of places with the same position and, where they matter, the same groups only the first. -/
def distinct (keepsGroups : Bool) (places : List Place) : List Place :=
  (places.foldl (fun (kept : List Place) place =>
    if kept.any fun other => other.position = place.position && (!keepsGroups || other.groups = place.groups) then kept
    else place :: kept) []).reverse

def refers : Regular → Bool
  | reference _ => true
  | both first second => refers first || refers second
  | either first second => refers first || refers second
  | repeated body _ _ => refers body
  | group _ body => refers body
  | _ => false

/-- The places that a step reaches from some places when it is taken again and again, those after more steps first; a step that gets nowhere is not taken again. -/
def closure (keepsGroups : Bool) (step : Place → List Place) : Nat → Nat → Option Nat → Place → List Place
  | 0, _, _, place => [place]
  | fuel + 1, least, most, place =>
    let further :=
      if most = some 0 then []
      else
        ((step place).filter fun next => place.position < next.position || 0 < least).flatMap
          (closure keepsGroups step fuel (least - 1) (most.map (· - 1)))
    distinct keepsGroups (if least = 0 then further ++ [place] else further)

/-- The places that an expression leads to from a place, those that count most first. -/
def reach (manner : Manner) (keepsGroups : Bool) : Regular → Place → List Place
  | empty, place => [place]
  | chars negated ranges, place =>
    match place.next? with
    | some (c, next) => if holds manner negated ranges c then [next] else []
    | none => []
  | both first second, place =>
    distinct keepsGroups ((reach manner keepsGroups first place).flatMap (reach manner keepsGroups second))
  | either first second, place =>
    distinct keepsGroups (reach manner keepsGroups first place ++ reach manner keepsGroups second place)
  | repeated body least most, place =>
    closure keepsGroups (reach manner keepsGroups body) (place.rest.length + least + 1) least most place
  | group index body, place =>
    (reach manner keepsGroups body place).map fun next =>
      { next with groups := (index, place.position, next.position) :: next.groups.filter fun found => found.1 ≠ index }
  | reference index, place =>
    match place.groups.lookup index with
    | none => []
    | some (first, last) =>
      let line := place.before.reverse
      let wanted := (line.drop first).take (last - first)
      let found := place.rest.take wanted.length
      if found.length = wanted.length && (found.zip wanted).all fun (a, b) => isSame manner a b then
        [place.skip wanted.length]
      else []
  | start, place => if place.before.isEmpty then [place] else []
  | finish, place => if place.rest.isEmpty then [place] else []
  | wordEdge wanted, place =>
    let isEdge := (place.before.head?.any isWordChar) != (place.rest.head?.any isWordChar)
    if isEdge = wanted then [place] else []
  | wordStart, place =>
    if !(place.before.head?.any isWordChar) && place.rest.head?.any isWordChar then [place] else []
  | wordFinish, place =>
    if place.before.head?.any isWordChar && !(place.rest.head?.any isWordChar) then [place] else []

/-- A match: where it begins and ends, and where groups were found. -/
structure Found where
  first : Nat
  last : Nat
  groups : List (Nat × Nat × Nat)

def matchAt? (manner : Manner) (expression : Regular) (place : Place) : Option Found :=
  let places := reach manner expression.refers expression { place with groups := [] }
  let longest := places.foldl (fun (best : Option Place) place =>
    match best with
    | some other => if other.position < place.position then some place else best
    | none => some place) none
  longest.map fun found => ⟨place.position, found.position, found.groups⟩

/-- The first match that begins at a place or behind it; `fuel` bounds how far behind. -/
def searchFrom (manner : Manner) (expression : Regular) : Nat → Place → Option Found
  | 0, place => matchAt? manner expression place
  | fuel + 1, place =>
    match matchAt? manner expression place with
    | some found => some found
    | none => place.next?.bind fun (_, next) => searchFrom manner expression fuel next

/-- The first match in a line at a position or behind it. -/
def search? (manner : Manner) (expression : Regular) (line : List Char) (position : Nat) : Option Found :=
  searchFrom manner expression (line.length - position) ((Place.ofLine line).skip position)

def occursIn (manner : Manner) (expression : Regular) (line : List Char) : Bool :=
  (search? manner expression line 0).isSome

def Found.text (found : Found) (line : List Char) : List Char :=
  (line.drop found.first).take (found.last - found.first)

def Found.groupText (found : Found) (line : List Char) (index : Nat) : List Char :=
  if index = 0 then found.text line
  else
    match found.groups.lookup index with
    | some (first, last) => (line.drop first).take (last - first)
    | none => []

/-- All matches in a line, none of which overlaps the one before it; an empty match right behind another one does not count. -/
def searchAll (manner : Manner) (expression : Regular) (line : List Char) : Nat → Nat → Option Nat → List Found
  | 0, _, _ => []
  | fuel + 1, position, last =>
    match search? manner expression line position with
    | none => []
    | some found =>
      if found.first = found.last then
        let more := if found.last < line.length then searchAll manner expression line fuel (found.last + 1) none else []
        if last = some found.last then more else found :: more
      else found :: searchAll manner expression line fuel found.last (some found.last)

def all (manner : Manner) (expression : Regular) (line : List Char) : List Found :=
  searchAll manner expression line (line.length + 2) 0 none

end Regular

end GuardedPlan
