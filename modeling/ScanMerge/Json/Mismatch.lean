import ScanMerge.Json.Basic
import ScanMerge.Text.Quoted

/-!
What is wrong with a JSON value that stands where another one is expected.
-/

set_option autoImplicit false

namespace ScanMerge.Json

/-- What a value is; of arrays and objects the contents do not matter. -/
inductive Kind where
  | null
  | bool (value : Bool)
  | integer (value : Int)
  | double (value : Decimal.Double)
  | string (value : String)
  | sequence
  | map
  deriving DecidableEq, Repr

def kind : Json → Kind
  | .null => .null
  | .bool value => .bool value
  | .integer value => .integer value
  | .double value => .double value
  | .string value => .string value
  | .array _ => .sequence
  | .object _ => .map

/-- What a value is, as messages put it. -/
def Kind.description : Kind → String
  | .null => "null"
  | .bool value => s!"boolean `{value}`"
  | .integer value => s!"integer `{String.ofList (integerText value)}`"
  | .double value => s!"floating point `{String.ofList (numberLayout.text value)}`"
  | .string value => s!"string {String.ofList (Text.quoted value.toList)}"
  | .sequence => "sequence"
  | .map => "map"

/-- Why a value is not what is expected. -/
inductive Mismatch where
  | invalidType (found : Kind) (expected : String)
  | invalidValue (found : Kind) (expected : String)
  | invalidLength (length : Nat) (expected : String)
  | noVariant (name : String)
  | unknownVariant (found : String) (known : List String)
  | missingField (name : String)
  | duplicateField (name : String)
  deriving DecidableEq, Repr

/-- The one word that is known, or all of them. -/
def describeKnown (known : List String) : String :=
  match known.map fun word => s!"`{word}`" with
  | [] => "nothing"
  | [word] => word
  | [first, second] => s!"{first} or {second}"
  | words => "one of " ++ ", ".intercalate words

/-- What is said about a value that is not what is expected. -/
def Mismatch.message : Mismatch → String
  | .invalidType found expected => s!"invalid type: {found.description}, expected {expected}"
  | .invalidValue found expected => s!"invalid value: {found.description}, expected {expected}"
  | .invalidLength length expected => s!"invalid length {length}, expected {expected}"
  | .noVariant name => s!"data did not match any variant of untagged enum {name}"
  | .unknownVariant found known => s!"unknown variant `{found}`, expected {describeKnown known}"
  | .missingField name => s!"missing field `{name}`"
  | .duplicateField name => s!"duplicate field `{name}`"

/-- A record's name with the number of its fields. -/
def describeFields (name : String) (count : Nat) : String :=
  let plural := if count = 1 then "" else "s"
  s!"{name} with {count} element{plural}"

end ScanMerge.Json
