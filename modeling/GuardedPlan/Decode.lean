import GuardedPlan.Json.Printer
import GuardedPlan.Text.Quoted

/-!
# Typed reading of JSON values

A decoder turns a value into a domain type or names the one fault it met first. The fields of an object are looked at in the order in which the object holds them, which is ascending for every value that was read from text; only when none of them is at fault is the first required field reported that is missing. A record may also be written as an array of its fields in the order of their declaration.
-/

namespace GuardedPlan

inductive DecodeError where
  | wrongKind (found : Json) (expected : String)
  | notSingleField
  | wrongLength (found : Nat) (expected : String)
  | unknownVariant (found : String) (known : List String)
  | unknownField (found : String) (known : List String)
  | missingField (name : String)
deriving Repr

namespace DecodeError

def ticked (name : String) : String :=
  "`" ++ name ++ "`"

/-- A choice between names, with the word that introduces it. -/
def choice : List String → String
  | [only] => ticked only
  | [first, second] => ticked first ++ " or " ++ ticked second
  | names => "one of " ++ ", ".intercalate (names.map ticked)

def described : Json → String
  | .null => "null"
  | .bool value => "boolean " ++ ticked (if value then "true" else "false")
  | .number (.int value) => "integer " ++ ticked (String.ofList (Number.int value).printed)
  | .number (.float value) => "floating point " ++ ticked (String.ofList value.printed)
  | .string text => "string " ++ Text.quoted text
  | .array _ => "sequence"
  | .object _ => "map"

def message : DecodeError → String
  | wrongKind found expected => "invalid type: " ++ described found ++ ", expected " ++ expected
  | notSingleField => "invalid value: map, expected map with a single key"
  | wrongLength found expected => "invalid length " ++ toString found ++ ", expected " ++ expected
  | unknownVariant found known => "unknown variant " ++ ticked found ++ ", expected " ++ choice known
  | unknownField found known => "unknown field " ++ ticked found ++ ", expected " ++ choice known
  | missingField name => "missing field " ++ ticked name

end DecodeError

abbrev Decoded (α : Type) := Except DecodeError α

namespace Decode

def text : Json → Decoded String
  | .string value => .ok value
  | value => .error (.wrongKind value "a string")

def boolean : Json → Decoded Bool
  | .bool value => .ok value
  | value => .error (.wrongKind value "a boolean")

/-- A floating-point number; integers are taken as such. -/
def float : Json → Decoded Binary64
  | .number value => .ok value.toBinary64
  | value => .error (.wrongKind value "f64")

def natural (value : Json) : Decoded Nat :=
  match value.natural? with
  | some n => .ok n
  | none => .error (.wrongKind value "u32")

def list {α : Type} (item : Json → Decoded α) : Json → Decoded (List α)
  | .array items => items.mapM item
  | value => .error (.wrongKind value "a sequence")

def table {α : Type} (member : Json → Decoded α) : Json → Decoded (Table α)
  | .object fields =>
    (fields.mapM fun field => (member field.2).map fun value => (field.1, value)).map Table.ofList
  | value => .error (.wrongKind value "a map")

def nullable {α : Type} (item : Json → Decoded α) : Json → Decoded (Option α)
  | .null => .ok none
  | value => (item value).map some

def any (value : Json) : Decoded Json :=
  .ok value

/-- One of several named constants: its name, or an object that maps the name to null. -/
def constant {α : Type} (known : List (String × α)) : Json → Decoded α
  | .string name =>
    match known.lookup name with
    | some value => .ok value
    | none => .error (.unknownVariant name (known.map Prod.fst))
  | .object [(name, body)] =>
    match known.lookup name, body with
    | some value, .null => .ok value
    | some _, other => .error (.wrongKind other "unit")
    | none, _ => .error (.unknownVariant name (known.map Prod.fst))
  | .object _ => .error .notSingleField
  | value => .error (.wrongKind value "string or map")

/-- The one field of an object that names an alternative. -/
def singleField : Json → Decoded (String × Json)
  | .object [field] => .ok field
  | .object _ => .error .notSingleField
  | value => .error (.wrongKind value "string or map")

end Decode

/-- A declared field of a record: its name, and whether a record written as an array has to reach it. -/
structure Slot where
  name : String
  positional : Bool

/-- Some fields of a record as read: the fields declared, the faults of the values present, and what they make up, or the first field that keeps them from it. -/
structure Reading (α : Type) where
  slots : List Slot
  faults : List (String × DecodeError)
  value : Decoded α

def Fields (α : Type) := List (String × Json) → Reading α

namespace Fields

def pure {α : Type} (value : α) : Fields α :=
  fun _ => ⟨[], [], .ok value⟩

/-- Reads the fields of one reader and then those of another. -/
def seq {α β : Type} (first : Fields (α → β)) (second : Unit → Fields α) : Fields β :=
  fun members =>
    let make := first members
    let made := second () members
    ⟨make.slots ++ made.slots, make.faults ++ made.faults, make.value.bind fun f => made.value.map f⟩

instance : Applicative Fields where
  pure := pure
  seq := seq

/-- Reads one field, with what its absence means. -/
def field {α : Type} (slot : Slot) (absent : Decoded α) (decode : Json → Decoded α) : Fields α :=
  fun members =>
    match Json.lookup slot.name members with
    | none => ⟨[slot], [], absent⟩
    | some member =>
      match decode member with
      | .ok value => ⟨[slot], [], .ok value⟩
      | .error fault => ⟨[slot], [(slot.name, fault)], .error fault⟩

def required {α : Type} (name : String) (decode : Json → Decoded α) : Fields α :=
  field ⟨name, true⟩ (.error (.missingField name)) decode

/-- A field that may be absent and then has a fixed value. -/
def defaulted {α : Type} (name : String) (absent : α) (decode : Json → Decoded α) : Fields α :=
  field ⟨name, false⟩ (.ok absent) decode

/-- A field that an object may lack or hold as null; an array has to reach it. -/
def optional {α : Type} (name : String) (decode : Json → Decoded α) : Fields (Option α) :=
  field ⟨name, true⟩ (.ok none) (Decode.nullable decode)

/-- The first fault among members: that of a declared field, or of a field that is not declared if `strict`. -/
def firstFault {α : Type} (strict : Bool) (reading : Reading α) : List (String × Json) → Option DecodeError
  | [] => none
  | (name, _) :: rest =>
    if reading.slots.any fun slot => slot.name = name then
      match reading.faults.lookup name with
      | some fault => some fault
      | none => firstFault strict reading rest
    else if strict then some (.unknownField name (reading.slots.map Slot.name))
    else firstFault strict reading rest

/-- Reads a record from the fields of an object. -/
def ofMembers {α : Type} (fields : Fields α) (strict : Bool) (members : List (String × Json)) : Decoded α :=
  let reading := fields members
  match firstFault strict reading members with
  | some fault => .error fault
  | none => reading.value

def counted (count : Nat) : String :=
  toString count ++ (if count = 1 then " element" else " elements")

/-- Reads a record from an array of its fields; `excess` names the length expected when there are too many. -/
def ofItems {α : Type} (fields : Fields α) (title : String) (excess : Nat → String) (items : List Json) :
    Decoded α :=
  let slots := (fields []).slots
  let members := (slots.map Slot.name).zip items
  let reading := fields members
  match firstFault false reading members with
  | some fault => .error fault
  | none =>
    match (slots.drop items.length).findIdx? fun slot => slot.positional with
    | some offset => .error (.wrongLength (items.length + offset) (title ++ " with " ++ counted slots.length))
    | none =>
      if slots.length < items.length then .error (.wrongLength items.length (excess slots.length))
      else reading.value

/-- Reads a record from an object or an array. -/
def record {α : Type} (fields : Fields α) (title : String) (strict : Bool) : Json → Decoded α
  | .object members => fields.ofMembers strict members
  | .array items => fields.ofItems title (fun _ => "fewer elements in array") items
  | value => .error (.wrongKind value title)

/-- Reads a strict record from an object only. -/
def body {α : Type} (fields : Fields α) : Json → Decoded α
  | .object members => fields.ofMembers true members
  | value => .error (.wrongKind value "struct variant")

end Fields

/-- A value whose alternative is named by a field of its own, taken apart. -/
structure Tagged where
  tag : String
  rest : List (String × Json) ⊕ List Json

namespace Tagged

def variant : Json → Decoded String
  | .string name => .ok name
  | value => .error (.wrongKind value "variant identifier")

/-- Takes the tag out of an object, or off the front of an array. -/
def ofJson (field title : String) : Json → Decoded Tagged
  | .object members =>
    match Json.lookup field members with
    | some tag => (variant tag).map fun tag => ⟨tag, .inl (members.filter fun member => member.1 ≠ field)⟩
    | none => .error (.missingField field)
  | .array (tag :: items) => (variant tag).map fun tag => ⟨tag, .inr items⟩
  | .array [] => .error (.missingField field)
  | value => .error (.wrongKind value ("internally tagged enum " ++ title))

/-- Reads the fields that come with the tag; others are passed over. -/
def read {α : Type} (value : Tagged) (title : String) (fields : Fields α) : Decoded α :=
  match value.rest with
  | .inl members => fields.ofMembers false members
  | .inr items =>
    fields.ofItems ("struct variant " ++ title) (fun count => Fields.counted count ++ " in sequence") items

end Tagged

end GuardedPlan
