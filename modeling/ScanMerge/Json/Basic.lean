import ScanMerge.Decimal.Shortest

/-!
JSON values and their text. A number is an integer of 64 bits or a double; an object lists its
members in the order in which they are written.
-/

set_option autoImplicit false

namespace ScanMerge

inductive Json where
  | null
  | bool (value : Bool)
  | integer (value : Int)
  | double (value : Decimal.Double)
  | string (value : String)
  | array (items : List Json)
  | object (members : List (String × Json))
  deriving Inhabited

namespace Json

mutual

/-- Whether two values are equal. Equality is decided by it, since a value holds lists of values. -/
def same : Json → Json → Bool
  | .null, .null => true
  | .bool left, .bool right => left = right
  | .integer left, .integer right => left = right
  | .double left, .double right => left = right
  | .string left, .string right => left = right
  | .array left, .array right => sameItems left right
  | .object left, .object right => sameMembers left right
  | _, _ => false

def sameItems : List Json → List Json → Bool
  | [], [] => true
  | left :: lefts, right :: rights => same left right && sameItems lefts rights
  | _, _ => false

def sameMembers : List (String × Json) → List (String × Json) → Bool
  | [], [] => true
  | (leftName, left) :: lefts, (rightName, right) :: rights =>
    leftName = rightName && same left right && sameMembers lefts rights
  | _, _ => false

end

mutual

theorem same_iff : (left right : Json) → (same left right = true ↔ left = right)
  | .null, right => by cases right <;> simp [same]
  | .bool _, right => by cases right <;> simp [same]
  | .integer _, right => by cases right <;> simp [same]
  | .double _, right => by cases right <;> simp [same]
  | .string _, right => by cases right <;> simp [same]
  | .array items, right => by cases right <;> simp [same, sameItems_iff items]
  | .object members, right => by cases right <;> simp [same, sameMembers_iff members]

theorem sameItems_iff :
    (lefts rights : List Json) → (sameItems lefts rights = true ↔ lefts = rights)
  | [], rights => by cases rights <;> simp [sameItems]
  | left :: lefts, rights => by
    cases rights <;> simp [sameItems, same_iff left, sameItems_iff lefts]

theorem sameMembers_iff : (lefts rights : List (String × Json)) →
    (sameMembers lefts rights = true ↔ lefts = rights)
  | [], rights => by cases rights <;> simp [sameMembers]
  | (name, left) :: lefts, rights => by
    cases rights <;>
      simp [sameMembers, same_iff left, sameMembers_iff lefts, Prod.ext_iff, and_assoc]

end

instance : DecidableEq Json := fun left right => decidable_of_iff _ (same_iff left right)

/-- Doubles in JSON text are written positionally from `0.00001` up to sixteen digits. -/
def numberLayout : Decimal.Layout :=
  ⟨fun leading => -5 ≤ leading && leading ≤ 15⟩

def integerText (value : Int) : List Char :=
  if value < 0 then '-' :: Nat.toDigits 10 value.natAbs else Nat.toDigits 10 value.natAbs

/-- A hexadecimal digit, in lower case. -/
def hexDigit (value : Nat) : Char :=
  if value < 10 then Char.ofNat (48 + value) else Char.ofNat (87 + value)

/-- A character inside a string: quotes, backslashes and control characters are escaped. -/
def escapedChar (c : Char) : List Char :=
  if c = '"' then ['\\', '"']
  else if c = '\\' then ['\\', '\\']
  else if c = '\n' then ['\\', 'n']
  else if c = '\r' then ['\\', 'r']
  else if c = '\t' then ['\\', 't']
  else if c.toNat = 8 then ['\\', 'b']
  else if c.toNat = 12 then ['\\', 'f']
  else if c.toNat < 0x20 then
    ['\\', 'u', '0', '0', hexDigit (c.toNat / 16), hexDigit (c.toNat % 16)]
  else [c]

def quoted (text : List Char) : List Char :=
  '"' :: text.flatMap escapedChar ++ ['"']

/-- The text of a value that is neither an array nor an object. -/
def scalarText : Json → List Char
  | .null => "null".toList
  | .bool true => "true".toList
  | .bool false => "false".toList
  | .integer value => integerText value
  | .double value => numberLayout.text value
  | .string value => quoted value.toList
  | .array _ => []
  | .object _ => []

mutual

/-- The text of a value without blanks. -/
def compactText : Json → List Char
  | .array items => '[' :: compactItems items ++ [']']
  | .object members => '{' :: compactMembers members ++ ['}']
  | .null => "null".toList
  | .bool value => scalarText (.bool value)
  | .integer value => integerText value
  | .double value => numberLayout.text value
  | .string value => quoted value.toList

/-- The texts of array items, separated by commas. -/
def compactItems : List Json → List Char
  | [] => []
  | [item] => compactText item
  | item :: next :: rest => compactText item ++ ',' :: compactItems (next :: rest)

/-- The texts of object members, separated by commas. -/
def compactMembers : List (String × Json) → List Char
  | [] => []
  | [(name, value)] => quoted name.toList ++ ':' :: compactText value
  | (name, value) :: next :: rest =>
    quoted name.toList ++ ':' :: compactText value ++ ',' :: compactMembers (next :: rest)

end

/-- A line feed and the indentation of a nesting level, two spaces each. -/
def lineStart (level : Nat) : List Char :=
  '\n' :: List.replicate (2 * level) ' '

mutual

/-- The text of a value with one item or member a line, at a nesting level. -/
def prettyText (level : Nat) : Json → List Char
  | .array [] => ['[', ']']
  | .array (item :: rest) =>
    '[' :: prettyItems (level + 1) (item :: rest) ++ lineStart level ++ [']']
  | .object [] => ['{', '}']
  | .object (member :: rest) =>
    '{' :: prettyMembers (level + 1) (member :: rest) ++ lineStart level ++ ['}']
  | .null => "null".toList
  | .bool value => scalarText (.bool value)
  | .integer value => integerText value
  | .double value => numberLayout.text value
  | .string value => quoted value.toList

def prettyItems (level : Nat) : List Json → List Char
  | [] => []
  | [item] => lineStart level ++ prettyText level item
  | item :: next :: rest =>
    lineStart level ++ prettyText level item ++ ',' :: prettyItems level (next :: rest)

def prettyMembers (level : Nat) : List (String × Json) → List Char
  | [] => []
  | [(name, value)] =>
    lineStart level ++ quoted name.toList ++ ':' :: ' ' :: prettyText level value
  | (name, value) :: next :: rest =>
    lineStart level ++ quoted name.toList ++ ':' :: ' ' :: prettyText level value ++
      ',' :: prettyMembers level (next :: rest)

end

/-- The text of a value without blanks. -/
def compact (value : Json) : String :=
  String.ofList value.compactText

/-- The text of a value with one item or member a line. -/
def pretty (value : Json) : String :=
  String.ofList (value.prettyText 0)

/-- The members in key order with one more member, which replaces one of the same name. -/
def insertMember (name : String) (value : Json) : List (String × Json) → List (String × Json)
  | [] => [(name, value)]
  | (present, other) :: rest =>
    if name < present then (name, value) :: (present, other) :: rest
    else if name = present then (name, value) :: rest
    else (present, other) :: insertMember name value rest

mutual

/-- The value with the members of every object in key order, of equal names only the last. -/
def normal : Json → Json
  | .array items => .array (normalItems items)
  | .object members => .object (normalMembers [] members)
  | .null => .null
  | .bool value => .bool value
  | .integer value => .integer value
  | .double value => .double value
  | .string value => .string value

def normalItems : List Json → List Json
  | [] => []
  | item :: rest => normal item :: normalItems rest

/-- The members in normal form, those before them being given in key order. -/
def normalMembers (before : List (String × Json)) : List (String × Json) → List (String × Json)
  | [] => before
  | (name, value) :: rest => normalMembers (insertMember name (normal value) before) rest

end

/-- The member of an object with a name; the last one counts. -/
def get? (value : Json) (name : String) : Option Json :=
  match value with
  | .object members => members.reverse.lookup name
  | _ => none

def string? : Json → Option String
  | .string value => some value
  | _ => none

/-- The value of an integer that is not negative. -/
def natural? : Json → Option Nat
  | .integer value => value.toNat?
  | _ => none

end Json

end ScanMerge
