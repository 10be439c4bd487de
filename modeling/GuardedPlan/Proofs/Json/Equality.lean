import GuardedPlan.Json.Basic

/-!
# Equal values

A comparison of values that runs, and the proof that it decides equality.
-/

namespace GuardedPlan.Json

mutual

/-- Two values are the same. -/
def same : Json → Json → Bool
  | null, null => true
  | bool value, bool other => decide (value = other)
  | number value, number other => decide (value = other)
  | string text, string other => decide (text = other)
  | array items, array others => sameItems items others
  | object fields, object others => sameFields fields others
  | _, _ => false

def sameItems : List Json → List Json → Bool
  | [], [] => true
  | item :: rest, other :: others => same item other && sameItems rest others
  | _, _ => false

def sameFields : List (String × Json) → List (String × Json) → Bool
  | [], [] => true
  | (key, value) :: rest, (name, other) :: others => decide (key = name) && same value other && sameFields rest others
  | _, _ => false

end

mutual

theorem same_iff : ∀ value other : Json, same value other = true ↔ value = other
  | null, other => by cases other <;> simp [same]
  | bool value, other => by cases other <;> simp [same]
  | number value, other => by cases other <;> simp [same]
  | string text, other => by cases other <;> simp [same]
  | array items, other => by cases other <;> simp [same, sameItems_iff items]
  | object fields, other => by cases other <;> simp [same, sameFields_iff fields]

theorem sameItems_iff : ∀ items others : List Json, sameItems items others = true ↔ items = others
  | [], others => by cases others <;> simp [sameItems]
  | item :: rest, others => by
    cases others with
    | nil => simp [sameItems]
    | cons other others => simp [sameItems, same_iff item, sameItems_iff rest]

theorem sameFields_iff : ∀ fields others : List (String × Json), sameFields fields others = true ↔ fields = others
  | [], others => by cases others <;> simp [sameFields]
  | (key, value) :: rest, others => by
    cases others with
    | nil => simp [sameFields]
    | cons field others =>
      obtain ⟨name, other⟩ := field
      simp [sameFields, same_iff value, sameFields_iff rest]

end

instance : DecidableEq Json :=
  fun value other => decidable_of_iff (same value other = true) (same_iff value other)

end GuardedPlan.Json
