import ScanMerge.Toml.Lexeme
import ScanMerge.Toml.Node

/-!
Reading TOML documents.
-/

set_option autoImplicit false

namespace ScanMerge.Toml

/-- A value that a reader without a bound found, when its rest is shorter. -/
def bounded {α : Type} (input : List Char) : Option (α × List Char) → Reading α input
  | none => none
  | some (value, rest) =>
    if shorter : Shorter rest input then some (value, ⟨rest, shorter⟩) else none

/-- The items of an array after its opening bracket or a comma, up to and with the closing bracket.
-/
def readItems (item : (input : List Char) → Reading Toml input) (input : List Char) :
    Reading (List Toml) input :=
  let start := skipLines input
  match readChar (· = ']') start.val with
  | some (_, rest) => some ([], ⟨rest.val, rest.property.trans_notLonger start.property⟩)
  | none =>
    match ((item start.val).ofEnd start.property).thenSkip skipLines with
    | none => none
    | some (value, rest) =>
      match readChar (· = ']') rest.val with
      | some (_, after) => some ([value], ⟨after.val, after.property.trans rest.property⟩)
      | none =>
        match readChar (· = ',') rest.val with
        | none => none
        | some (_, after) =>
          have left := after.property.trans rest.property
          ((readItems item after.val).convert fun values => some (value :: values)).ofEnd
            left.notLonger
termination_by input.length
decreasing_by exact left

def readPair (item : (input : List Char) → Reading Toml input) (input : List Char) :
    Reading ((List String × String) × Toml) input :=
  (readKey input).andThen fun key rest =>
    (readChar (· = '=') rest.val).andThen fun _ after =>
      ((item (skipSpaces after.val).val).convert fun value => some (key, value)).ofEnd
        (skipSpaces after.val).property

/-- The pairs of an inline table, up to and with the closing brace. -/
def readPairs (item : (input : List Char) → Reading Toml input) (input : List Char) :
    Reading (List ((List String × String) × Toml)) input :=
  match (readPair item input).thenSkip skipSpaces with
  | none => none
  | some (pair, rest) =>
    match readChar (· = '\x7d') rest.val with
    | some (_, after) => some ([pair], ⟨after.val, after.property.trans rest.property⟩)
    | none =>
      match readChar (· = ',') rest.val with
      | none => none
      | some (_, after) =>
        have left := after.property.trans rest.property
        ((readPairs item after.val).convert fun pairs => some (pair :: pairs)).ofEnd left.notLonger
termination_by input.length
decreasing_by exact left

def tableOfPairs (pairs : List ((List String × String) × Toml)) : Option Toml :=
  (pairs.foldlM (fun members pair => insertValue pair.1.2 pair.2 pair.1.1 members) []).map
    fun members => .table (membersToml members)

/-- The most arrays and inline tables inside one another. -/
def nestingLimit : Nat := 79

/-- A value with at most `depth` arrays and inline tables inside one another. -/
def readValue (depth : Nat) (input : List Char) : Reading Toml input :=
  match input with
  | [] => none
  | c :: rest =>
    if c = '"' ∨ c = '\'' then (readString (c :: rest)).convert fun text => some (.string text)
    else if c = '[' then
      match depth with
      | 0 => none
      | inner + 1 =>
        ((readItems (readValue inner) rest).convert fun items => some (.array items)).ofEnd
          notLonger_cons_self
    else if c = '\x7b' then
      match depth with
      | 0 => none
      | inner + 1 =>
        let start := skipSpaces rest
        match readChar (· = '\x7d') start.val with
        | some (_, after) =>
          some (.table [], ⟨after.val, (after.property.trans_notLonger start.property).cons⟩)
        | none =>
          ((readPairs (readValue inner) rest).convert tableOfPairs).ofEnd notLonger_cons_self
    else
      bounded (c :: rest) (scalar? (c :: rest))

/-- A document so far, with the path of the table under the last heading. -/
structure Draft where
  members : Members
  heading : List String

/-- A heading after its first bracket: whether it is one of an array of tables, and its key. -/
def readHeading (input : List Char) : Reading (Bool × List String × String) input :=
  match input with
  | '[' :: rest =>
    ((readKey rest).andThen fun key after =>
      (readWord [']', ']'] after.val (List.cons_ne_nil _ _)).convert fun () =>
        some (true, key)).ofEnd notLonger_cons_self
  | input =>
    (readKey input).andThen fun key after =>
      (readWord [']'] after.val (List.cons_ne_nil _ _)).convert fun () => some (false, key)

def Draft.enter (draft : Draft) (isArray : Bool) (path : List String) (key : String) :
    Option Draft :=
  let opening := if isArray then openTables key else openTable key
  (alterAt opening path draft.members).map fun members => ⟨members, path ++ [key]⟩

def Draft.insert (draft : Draft) (path : List String) (key : String) (value : Toml) :
    Option Draft :=
  (alterAt (insertValue key value path) draft.heading draft.members).map fun members =>
    { draft with members }

def readLine (draft : Draft) (input : List Char) : Reading Draft input :=
  match input with
  | '[' :: rest =>
    ((readHeading rest).convert fun (isArray, path, key) => draft.enter isArray path key).ofEnd
      notLonger_cons_self
  | input =>
    (readPair (readValue nestingLimit) input).convert fun ((path, key), value) =>
      draft.insert path key value

def readDocument (draft : Draft) (input : List Char) : Option Draft :=
  let start := skipLines input
  if start.val = [] then some draft
  else
    match readLine draft start.val with
    | none => none
    | some (draft, rest) =>
      match endLine rest.val with
      | none => none
      | some after => readDocument draft after.val
termination_by input.length
decreasing_by exact after.property.trans_shorter (rest.property.trans_notLonger start.property)

/-- Reads a document; a byte order mark in front does not count. -/
def parse (text : List Char) : Option Toml :=
  let body :=
    match text with
    | '\uFEFF' :: rest => rest
    | _ => text
  (readDocument ⟨[], []⟩ body).map fun draft => .table (membersToml draft.members)

end ScanMerge.Toml
