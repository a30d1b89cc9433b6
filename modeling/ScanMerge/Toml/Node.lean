import ScanMerge.Toml.Basic

/-!
Documents under construction. Tables come into being by headings, on the way to a heading, and by
dotted keys, and each way allows other extensions later on.
-/

set_option autoImplicit false

namespace ScanMerge.Toml

/-- How a table came into being. -/
inductive Origin where
  /-- By a heading of its own. -/
  | heading
  /-- On the way to the heading of a table inside it. -/
  | way
  /-- By a dotted key. -/
  | dotted
  deriving DecidableEq, Repr

/-- What stands under a key of a document. -/
inductive Node where
  /-- A value, which is complete. -/
  | value (value : Toml)
  | table (origin : Origin) (members : List (String × Node))
  /-- An array of tables, each with a heading of its own. -/
  | tables (items : List (List (String × Node)))
  deriving Inhabited

/-- The members of a table. -/
abbrev Members : Type :=
  List (String × Node)

/-- The members with what stands under a key replaced by what `change` makes of it. -/
def alter (key : String) (change : Option Node → Option Node) : Members → Option Members
  | [] => (change none).map fun node => [(key, node)]
  | (present, node) :: rest =>
    if present = key then (change (some node)).map fun changed => (key, changed) :: rest
    else (alter key change rest).map ((present, node) :: ·)

def alterLast {α : Type} (change : α → Option α) : List α → Option (List α)
  | [] => none
  | [last] => (change last).map ([·])
  | item :: next :: rest => (alterLast change (next :: rest)).map (item :: ·)

/-- The members with a value under a dotted key, whose parts before the last are `path`. A key is
used once, and a table with a heading is not extended. -/
def insertValue (key : String) (value : Toml) : (path : List String) → Members → Option Members
  | [], members =>
    alter key (fun present => if present.isNone then some (.value value) else none) members
  | name :: path, members =>
    members |> alter name fun present =>
      match present with
      | none => (insertValue key value path []).map (.table .dotted)
      | some (.value _) => none
      | some (.tables items) =>
        if path = [] then none else (alterLast (insertValue key value path) items).map .tables
      | some (.table origin inner) =>
        if origin = .heading ∨ (path = [] ∧ origin ≠ .dotted) then none
        else (insertValue key value path inner).map (.table origin)

/-- The members with a change to those of the table that a path leads to. In an array of tables it
leads to the last one. -/
def alterAt (change : Members → Option Members) : (path : List String) → Members → Option Members
  | [], members => change members
  | name :: path, members =>
    members |> alter name fun present =>
      match present with
      | none => (alterAt change path []).map (.table .way)
      | some (.value _) => none
      | some (.tables items) => (alterLast (alterAt change path) items).map .tables
      | some (.table origin inner) => (alterAt change path inner).map (.table origin)

/-- The members after the heading of a table. -/
def openTable (key : String) (members : Members) : Option Members :=
  members |> alter key fun present =>
    match present with
    | none => some (.table .heading [])
    | some (.table .way inner) => some (.table .heading inner)
    | some _ => none

/-- The members after the heading of a table in an array of tables. -/
def openTables (key : String) (members : Members) : Option Members :=
  members |> alter key fun present =>
    match present with
    | none => some (.tables [[]])
    | some (.tables items) => some (.tables (items ++ [[]]))
    | some _ => none

mutual

def Node.toml : Node → Toml
  | .value value => value
  | .table _ members => .table (membersToml members)
  | .tables items => .array (tablesToml items)

def membersToml : List (String × Node) → List (String × Toml)
  | [] => []
  | (name, node) :: rest => (name, node.toml) :: membersToml rest

/-- The values that the tables of an array become. -/
def tablesToml : List (List (String × Node)) → List Toml
  | [] => []
  | members :: rest => .table (membersToml members) :: tablesToml rest

end

end ScanMerge.Toml
