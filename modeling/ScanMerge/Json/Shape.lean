import ScanMerge.Json.Mismatch

/-!
Reading records from JSON values. A record is an object, whose members are taken in turn and of
which unknown ones are passed over, or an array of the record's fields in their order.
-/

set_option autoImplicit false

namespace ScanMerge.Json

abbrev Shape (α : Type) : Type :=
  Json → Except Mismatch α

namespace Shape

def text : Shape String
  | .string value => .ok value
  | value => .error (.invalidType value.kind "a string")

/-- An integer of 32 bits without a sign. -/
def word : Shape UInt32
  | .integer value =>
    if 0 ≤ value ∧ value < UInt32.size then .ok (UInt32.ofNat value.toNat)
    else .error (.invalidValue (.integer value) "u32")
  | value => .error (.invalidType value.kind "u32")

def any : Shape Json :=
  .ok

/-- A value of a shape, or null. -/
def optional {α : Type} (item : Shape α) : Shape (Option α)
  | .null => .ok none
  | value => (item value).map some

def list {α : Type} (item : Shape α) : Shape (List α)
  | .array items => items.mapM item
  | value => .error (.invalidType value.kind "a sequence")

structure Field where
  name : String
  /-- An array of fields may end before this one. -/
  optional : Bool

/-- The position of the first field that an array is too short for and that cannot be left out. -/
def missing (fields : List Field) (length : Nat) : Option Nat :=
  ((fields.zip (List.range fields.length)).find? fun field =>
    length ≤ field.2 && !field.1.optional).map (·.2)

/-- A record. `member` stores the value of a field in the record so far. -/
def record {α : Type} (name : String) (fields : List Field)
    (member : α → String → Json → Except Mismatch α) (start : α) : Shape α
  | .object members =>
    members.foldlM (fun value entry => member value entry.1 entry.2) start
  | .array items => do
    let value ← (fields.zip items).foldlM
      (fun value (field, item) => member value field.name item) start
    match missing fields items.length with
    | some position => .error (.invalidLength position (describeFields name fields.length))
    | none =>
      if fields.length < items.length then
        .error (.invalidLength items.length "fewer elements in array")
      else
        .ok value
  | value => .error (.invalidType value.kind name)

end Shape

end ScanMerge.Json
