import GuardedPlan.Proofs.Json.Ordered

/-!
# Values changed in one place

A place in a value is given by the way down to it, and one way may lead to many places. A value is adjusted by a change of what stands in these places and of nothing else.
-/

namespace GuardedPlan

/-- A number in floating-point form where that is the same number, and as it is otherwise. -/
def Number.floated (n : Number) : Number :=
  if n.toBinary64.units = n.units then .float n.toBinary64 else n

theorem Number.units_floated (n : Number) : n.floated.units = n.units := by
  unfold floated
  split
  · assumption
  · rfl

/-- One step on the way down into a value: to the member of a name, or to every item. -/
inductive Descent where
  | member (name : String)
  | items
deriving DecidableEq, Repr

namespace Json

/-- A number in floating-point form. -/
def floated : Json → Json
  | number n => number n.floated
  | value => value

/-- The value with a change wherever the way leads. -/
def adjust (change : Json → Json) : List Descent → Json → Json
  | [], value => change value
  | .member name :: rest, object fields =>
    object (fields.map fun field => (field.1, if field.1 = name then adjust change rest field.2 else field.2))
  | .items :: rest, array items => array (items.map (adjust change rest))
  | _ :: _, value => value

variable {change : Json → Json} {name : String} {rest : List Descent}

theorem adjust_items (items : List Json) :
    adjust change (.items :: rest) (array items) = array (items.map (adjust change rest)) := rfl

/-- An encoded record is the adjusted object when each of its members is what the object holds under the name, adjusted. -/
theorem canonical_object_eq_adjust {fields members : List (String × Json)} (hascending : Ascending fields)
    (hnames : (members.map Prod.fst).Nodup) (hclosed : ∀ field ∈ fields, field.1 ∈ members.map Prod.fst)
    (hheld : ∀ member ∈ members,
      ((lookup member.1 fields).map fun value => if member.1 = name then adjust change rest value else value) =
        some member.2.canonical) :
    (object members).canonical = (object fields).adjust change (.member name :: rest) := by
  rw [canonical_object, adjust, object.injEq]
  refine canonicalMembers_eq_of_lookup (List.pairwise_map.2 hascending) hnames ?_ fun member hmember => ?_
  · intro field hfield
    obtain ⟨original, horiginal, rfl⟩ := List.mem_map.1 hfield
    exact hclosed original horiginal
  · rw [← hheld member hmember]
    exact lookup_map member.1 (fun key value => if key = name then adjust change rest value else value) fields

end Json

end GuardedPlan
