import ScanMerge.Facts
import ScanMerge.Json.Basic

/-!
The telemetry of a project: under each key its distinct values, in order. A JSON document gives one
value for each leaf, under the names on the way to it, joined by dots.
-/

set_option autoImplicit false

namespace ScanMerge

structure TelemetryEntry where
  key : String
  value : String
  deriving DecidableEq, Repr

/-- The distinct values under each key, ascending. -/
abbrev TelemetryTable : Type :=
  KeyMap (List String)

namespace TelemetryTable

def add (table : TelemetryTable) (key value : String) : TelemetryTable :=
  table.update key fun present => insertText value (present.getD [])

/-- The table with values under keys. -/
def addAll (table : TelemetryTable) (pairs : List (String × String)) : TelemetryTable :=
  pairs.foldl (fun table pair => table.add pair.1 pair.2) table

def ofPairs (pairs : List (String × String)) : TelemetryTable :=
  addAll .empty pairs

/-- The keys of a table with each of their values. -/
def pairs (table : TelemetryTable) : List (String × String) :=
  table.entries.flatMap fun entry => entry.2.map fun value => (entry.1, value)

def merge (table other : TelemetryTable) : TelemetryTable :=
  table.addAll other.pairs

def ofEntries (entries : Facts TelemetryEntry) : TelemetryTable :=
  ofPairs (entries.all.map fun entry => (entry.key, entry.value))

/-! ### Documents -/

def nestedKey (key name : String) : String :=
  if key = "" then name else key ++ "." ++ name

/-- The entry of a leaf under a key; a leaf that is under no key has none. -/
def leaf (key value : String) : List (String × String) :=
  if key = "" then [] else [(key, value)]

mutual

/-- The keys and texts of the leaves of a document that stands under a key. Null is no leaf. -/
def leaves (key : String) : Json → List (String × String)
  | .object members => memberLeaves key members
  | .null => []
  | .string value => leaf key value
  | .bool value => leaf key (Json.bool value).compact
  | .integer value => leaf key (Json.integer value).compact
  | .double value => leaf key (Json.double value).compact
  | .array items => leaf key (Json.array items).compact

def memberLeaves (key : String) : List (String × Json) → List (String × String)
  | [] => []
  | (name, value) :: rest => leaves (nestedKey key name) value ++ memberLeaves key rest

end

/-- The keys and texts of the leaves of a document. -/
def documentPairs (document : Json) : List (String × String) :=
  leaves "" document

def ofDocuments (documents : Facts Json) : TelemetryTable :=
  ofPairs (documents.all.flatMap documentPairs)

end TelemetryTable

end ScanMerge
