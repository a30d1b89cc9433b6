/-!
TOML values, and the text of a table: its values first, then each table inside it under a heading.
-/

set_option autoImplicit false

namespace ScanMerge

inductive Toml where
  | string (value : String)
  | integer (value : Int)
  /-- A floating point number as it is spelled. -/
  | float (spelling : String)
  | boolean (value : Bool)
  /-- A date, a time or both, in the standard spelling. -/
  | datetime (text : String)
  | array (items : List Toml)
  | table (members : List (String × Toml))
  deriving Inhabited

namespace Toml

/-- A character inside quotes. -/
def escapedChar (c : Char) : List Char :=
  if c = '"' then ['\\', '"']
  else if c = '\\' then ['\\', '\\']
  else if c = '\n' then ['\\', 'n']
  else if c = '\r' then ['\\', 'r']
  else if c = '\t' then ['\\', 't']
  else [c]

def quoted (text : String) : String :=
  "\"" ++ String.ofList (text.toList.flatMap escapedChar) ++ "\""

def integerText (value : Int) : String :=
  let digits := String.ofList (Nat.toDigits 10 value.natAbs)
  if value < 0 then "-" ++ digits else digits

mutual

/-- The text of a value on the right of a key. The items of an array stand on lines of their own. -/
def valueText : Toml → String
  | .string value => quoted value
  | .integer value => integerText value
  | .float spelling => spelling
  | .boolean value => if value then "true" else "false"
  | .datetime text => text
  | .array items => "[" ++ itemsText items ++ "]"
  | .table members => "\x7b" ++ membersText members ++ " \x7d"

def itemsText : List Toml → String
  | [] => ""
  | [item] => "\n    " ++ valueText item ++ ",\n"
  | item :: next :: rest => "\n    " ++ valueText item ++ "," ++ itemsText (next :: rest)

/-- The members of a table inside an array. -/
def membersText : List (String × Toml) → String
  | [] => ""
  | [(name, value)] => " " ++ name ++ " = " ++ valueText value
  | (name, value) :: next :: rest =>
    " " ++ name ++ " = " ++ valueText value ++ "," ++ membersText (next :: rest)

end

/-- The line of a member; a table has none. -/
def memberLine (name : String) : Toml → String
  | .table _ => ""
  | value => name ++ " = " ++ valueText value ++ "\n"

mutual

/-- The sections of the tables among members, whose names begin with `front`. -/
def sections (front : String) : List (String × Toml) → List String
  | [] => []
  | (name, value) :: rest => memberSections (front ++ name) value ++ sections front rest

def memberSections (name : String) : Toml → List String
  | .table members =>
    ("[" ++ name ++ "]\n" ++ String.join (members.map fun (key, value) => memberLine key value)) ::
      sections (name ++ ".") members
  | .string _ => []
  | .integer _ => []
  | .float _ => []
  | .boolean _ => []
  | .datetime _ => []
  | .array _ => []

end

def documentText (members : List (String × Toml)) : String :=
  let lines := String.join (members.map fun member => memberLine member.1 member.2)
  let blocks := (if lines = "" then [] else [lines]) ++ sections "" members
  "\n".intercalate blocks

end Toml

end ScanMerge
