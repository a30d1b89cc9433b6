import ScanMerge.Json.Basic
import ScanMerge.KeyMap

/-!
Writing and reading the members of JSON objects.
-/

set_option autoImplicit false

namespace ScanMerge.Json

def natural (value : Nat) : Json :=
  .integer value

/-- A member that is left out when its value is absent. -/
def optionalMember {α : Type} (name : String) (write : α → Json) (value : Option α) :
    List (String × Json) :=
  value.toList.map fun value => (name, write value)

def texts (values : List String) : Json :=
  .array (values.map .string)

/-- The member of an object, when it is there and is not null. -/
def present? (value : Json) (name : String) : Option Json :=
  match value.get? name with
  | some .null => none
  | found => found

/-- Reads a member that may be absent. -/
def optionalField? {α : Type} (value : Json) (name : String) (read : Json → Option α) :
    Option (Option α) :=
  match value.present? name with
  | none => some none
  | some found => (read found).map some

def items? {α : Type} (read : Json → Option α) : Json → Option (List α)
  | .array items => items.mapM read
  | _ => none

def map? {α : Type} (read : Json → Option α) : Json → Option (KeyMap α)
  | .object members =>
    let values := members.mapM fun member => (read member.2).map fun value => (member.1, value)
    values.map KeyMap.ofList
  | _ => none

def field? {α : Type} (value : Json) (name : String) (read : Json → Option α) : Option α :=
  (value.get? name).bind read

/-- Reads one of several values by its word. -/
def keyword? {α : Type} (all : List α) (keyword : α → String) (value : Json) : Option α :=
  value.string?.bind fun text => all.find? fun candidate => keyword candidate = text

def word? (value : Json) : Option UInt32 :=
  value.natural?.bind fun number =>
    if number < UInt32.size then some (UInt32.ofNat number) else none

def truth? : Json → Option Bool
  | .bool value => some value
  | _ => none

def double? : Json → Option Decimal.Double
  | .double value => some value
  | .integer value => Decimal.Double.ofNat? (value < 0) value.natAbs
  | _ => none

end ScanMerge.Json
