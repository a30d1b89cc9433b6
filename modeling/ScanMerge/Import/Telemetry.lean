import ScanMerge.Import.Basic

/-!
Telemetry events written as JSON: any number of events one after the other, or arrays of them.
-/

set_option autoImplicit false

namespace ScanMerge.Telemetry

/-- The highest version of events that is understood. -/
def greatestSchema : Nat := 1

/-- The member that holds the version of an event. -/
def schemaField : String := "schemaVersion"

/-- The text of a value: a string as it is, and otherwise the value without blanks. -/
def valueText : Json → String
  | .string text => text
  | value => value.compact

/-- The events of a sequence of values: the items of arrays and all other values. -/
def events (values : List Json) : List Json :=
  values.flatMap fun value =>
    match value with
    | .array items => items
    | event => [event]

/-- The entries of an event. One with a `key` is a single entry; any other has one entry for each
member that is not null. -/
def entries (members : List (String × Json)) : List (String × String) :=
  let members := members.filter fun member => member.1 ≠ schemaField
  match (Json.object members).get? "key" with
  | some (.string key) => [(key, (((Json.object members).get? "value").map valueText).getD "")]
  | _ =>
    members.filterMap fun member =>
      match member.2 with
      | .null => none
      | value => some (member.1, valueText value)

/-- The version of an event, when it is one that is not understood. -/
def futureSchema? (members : List (String × Json)) : Option Nat :=
  (((Json.object members).get? schemaField).bind Json.natural?).bind fun version =>
    if greatestSchema < version then some version else none

/-- The findings of events, the first of which has a number. -/
def findingsFrom (moduleKey : String) (number : Nat) : List Json → Except Defect (List Finding)
  | [] => .ok []
  | .object members :: rest =>
    match futureSchema? members with
    | some version => .error (.unsupportedVersion (toString version))
    | none =>
      match findingsFrom moduleKey (number + 1) rest with
      | .error defect => .error defect
      | .ok findings =>
        .ok ((entries members).map (fun entry => .telemetry moduleKey entry.1 entry.2) ++ findings)
  | _ :: _ => .error (.eventNotObject number)

def importBytes (moduleKey : String) (input : List UInt8) : Except Defect Contribution :=
  match Text.Utf8.fault? input with
  | some fault => .error (.utf8 fault)
  | none =>
    match Json.parseSequence input with
    | .error error => .error (.json error)
    | .ok values =>
      (findingsFrom moduleKey 1 (events values)).map fun findings => ⟨findings, [], []⟩

end ScanMerge.Telemetry
