import ScanMerge.Rest
import ScanMerge.Text.Utf8

/-!
The tagged wire format of binary records. A message is a run of fields, each with a key that holds a
tag and a wire type. Lengths are measured against all the input that is left, so a field may reach
past the end of its message; that shows when the message ends.
-/

set_option autoImplicit false

namespace ScanMerge.Wire

/-- How the value of a field is written. -/
inductive WireType where
  | varint
  | sixtyFourBit
  | lengthDelimited
  | startGroup
  | endGroup
  | thirtyTwoBit
  deriving DecidableEq, Repr

namespace WireType

def name : WireType → String
  | .varint => "Varint"
  | .sixtyFourBit => "SixtyFourBit"
  | .lengthDelimited => "LengthDelimited"
  | .startGroup => "StartGroup"
  | .endGroup => "EndGroup"
  | .thirtyTwoBit => "ThirtyTwoBit"

def code : WireType → Nat
  | .varint => 0
  | .sixtyFourBit => 1
  | .lengthDelimited => 2
  | .startGroup => 3
  | .endGroup => 4
  | .thirtyTwoBit => 5

def ofCode? : Nat → Option WireType
  | 0 => some .varint
  | 1 => some .sixtyFourBit
  | 2 => some .lengthDelimited
  | 3 => some .startGroup
  | 4 => some .endGroup
  | 5 => some .thirtyTwoBit
  | _ => none

theorem ofCode?_code (wireType : WireType) : ofCode? wireType.code = some wireType := by
  cases wireType <;> rfl

end WireType

/-- Why bytes are no message. -/
inductive Fault where
  | underflow
  | lengthExceeded
  | varint
  | key (value : Nat)
  | tagZero
  | wireTypeCode (code : Nat)
  | wireType (found expected : WireType)
  | notUtf8
  | endGroup
  | nestedTooDeep
  deriving DecidableEq, Repr

def Fault.message : Fault → String
  | .underflow => "buffer underflow"
  | .lengthExceeded => "delimited length exceeded"
  | .varint => "invalid varint"
  | .key value => s!"invalid key value: {value}"
  | .tagZero => "invalid tag value: 0"
  | .wireTypeCode code => s!"invalid wire type value: {code}"
  | .wireType found expected =>
    s!"invalid wire type: {found.name} (expected {expected.name})"
  | .notUtf8 => "invalid string value: data is not UTF-8 encoded"
  | .endGroup => "unexpected end group tag"
  | .nestedTooDeep => "recursion limit reached"

/-- A fault with the fields around it, the innermost first. -/
structure Error where
  fault : Fault
  fields : List String
  deriving DecidableEq, Repr

/-- What is said about bytes that are no message. -/
def Error.message (error : Error) : String :=
  String.join ("failed to decode Protobuf message: " :: error.fields.map (· ++ ": ") ++
    [error.fault.message])

/-- A fault outside every field. -/
def fail {α : Type} (fault : Fault) : Except Error α :=
  .error ⟨fault, []⟩

/-- What a reader makes of an input: a value and the rest, which is not longer, or an error. -/
abbrev Reading (α : Type) (input : List UInt8) : Type :=
  Except Error (α × Remainder input)

/-- The same reading, its faults shown as those of a field. -/
def Reading.inField {α : Type} {input : List UInt8} (field : String) :
    Reading α input → Reading α input
  | .error error => .error ⟨error.fault, error.fields ++ [field]⟩
  | .ok result => .ok result

/-! ### Varints and keys -/

/-- The last byte of a varint of ten may be this at most. -/
def greatestTenthByte : UInt8 := 1

/-- A varint whose first `count` bytes, of value `low`, are read: seven bits a byte, the low ones
first, and ten bytes at most. -/
def readVarintFrom (count low : Nat) : (input : List UInt8) →
    Except Error (Nat × Rest input)
  | [] => fail .varint
  | byte :: rest =>
    let value := low + byte.toNat % 128 * Nat.pow 128 count
    if byte < 0x80 then
      if count = 9 ∧ greatestTenthByte < byte then fail .varint
      else .ok (value, ⟨rest, shorter_cons_self⟩)
    else if count < 9 then
      match readVarintFrom (count + 1) value rest with
      | .ok (result, ⟨after, shorter⟩) => .ok (result, ⟨after, shorter.cons⟩)
      | .error error => .error error
    else
      fail .varint

def readVarint (input : List UInt8) :
    Except Error (Nat × Rest input) :=
  readVarintFrom 0 0 input

/-- The tag and the wire type of a field. -/
structure Key where
  tag : Nat
  wireType : WireType
  deriving DecidableEq, Repr

/-- Keys have 32 bits. -/
def keyBound : Nat := UInt32.size

/-- A key: the wire type in the low three bits, the tag, which is not zero, above them. -/
def readKey (input : List UInt8) :
    Except Error (Key × Rest input) :=
  match readVarint input with
  | .error error => .error error
  | .ok (value, rest) =>
    if keyBound ≤ value then fail (.key value)
    else
      match WireType.ofCode? (value % 8) with
      | none => fail (.wireTypeCode (value % 8))
      | some wireType =>
        if value / 8 = 0 then fail .tagZero else .ok (⟨value / 8, wireType⟩, rest)

/-! ### Values -/

/-- The wire type is the one of the field's declaration. -/
def checkWireType (found expected : WireType) : Except Error Unit :=
  if found = expected then .ok () else fail (.wireType found expected)

def readNumber (wireType : WireType) (input : List UInt8) : Reading Nat input :=
  match checkWireType wireType .varint with
  | .error error => .error error
  | .ok () =>
    match readVarint input with
    | .ok (value, ⟨rest, shorter⟩) => .ok (value, ⟨rest, shorter.notLonger⟩)
    | .error error => .error error

/-- The bytes of a length-delimited value. -/
def readBytes (wireType : WireType) (input : List UInt8) : Reading (List UInt8) input :=
  match checkWireType wireType .lengthDelimited with
  | .error error => .error error
  | .ok () =>
    match readVarint input with
    | .error error => .error error
    | .ok (length, ⟨rest, shorter⟩) =>
      if rest.length < length then fail .underflow
      else
        .ok (rest.take length, ⟨rest.drop length, (notLonger_drop length rest).past shorter⟩)

def readString (wireType : WireType) (input : List UInt8) : Reading String input :=
  match readBytes wireType input with
  | .error error => .error error
  | .ok (bytes, rest) =>
    match Text.Utf8.decode? bytes with
    | some text => .ok (String.ofList text, rest)
    | none => fail .notUtf8

def skipBytes (count : Nat) (input : List UInt8) : Reading Unit input :=
  if input.length < count then fail .underflow
  else .ok ((), ⟨input.drop count, notLonger_drop count input⟩)

/-- The fields of a group up to and with its end, whose tag is the group's. -/
def skipGroup (skip : (key : Key) → (input : List UInt8) → Reading Unit input) (tag : Nat)
    (input : List UInt8) : Reading Unit input :=
  match readKey input with
  | .error error => .error error
  | .ok (key, ⟨rest, shorter⟩) =>
    if key.wireType = .endGroup then
      if key.tag = tag then .ok ((), ⟨rest, shorter.notLonger⟩) else fail .endGroup
    else
      match skip key rest with
      | .error error => .error error
      | .ok ((), ⟨after, notLonger⟩) =>
        match skipGroup skip tag after with
        | .error error => .error error
        | .ok ((), ⟨last, notLonger'⟩) =>
          have left := notLonger.past shorter
          .ok ((), ⟨last, notLonger'.trans left⟩)
termination_by input.length
decreasing_by exact notLonger.trans_shorter shorter

/-- The input after the value of an unknown field, groups in it nesting less than `depth` deep. -/
def skipField (depth : Nat) (key : Key) (input : List UInt8) : Reading Unit input :=
  match depth with
  | 0 => fail .nestedTooDeep
  | inner + 1 =>
    match key.wireType with
    | .varint =>
      match readVarint input with
      | .ok (_, ⟨rest, shorter⟩) => .ok ((), ⟨rest, shorter.notLonger⟩)
      | .error error => .error error
    | .thirtyTwoBit => skipBytes 4 input
    | .sixtyFourBit => skipBytes 8 input
    | .lengthDelimited =>
      match readVarint input with
      | .error error => .error error
      | .ok (length, ⟨rest, shorter⟩) =>
        match skipBytes length rest with
        | .ok ((), ⟨after, notLonger⟩) => .ok ((), ⟨after, notLonger.past shorter⟩)
        | .error error => .error error
    | .startGroup => skipGroup (skipField inner) key.tag input
    | .endGroup => fail .endGroup

/-! ### Messages -/

/-- What a message type makes of one field: the message so far with the field's value. -/
abbrev FieldReader (α : Type) : Type :=
  (message : α) → (key : Key) → (input : List UInt8) → Reading α input

/-- The fields of a message that ends where `limit` bytes are left. -/
def readFields {α : Type} (field : FieldReader α) (limit : Nat) (message : α)
    (input : List UInt8) : Reading α input :=
  if limit < input.length then
    match readKey input with
    | .error error => .error error
    | .ok (key, ⟨rest, shorter⟩) =>
      match field message key rest with
      | .error error => .error error
      | .ok (next, ⟨after, notLonger⟩) =>
        match readFields field limit next after with
        | .error error => .error error
        | .ok (result, ⟨last, notLonger'⟩) =>
          have left := notLonger.past shorter
          .ok (result, ⟨last, notLonger'.trans left⟩)
  else if input.length = limit then
    .ok (message, ⟨input, Nat.le_refl _⟩)
  else
    fail .lengthExceeded
termination_by input.length
decreasing_by exact notLonger.trans_shorter shorter

/-- A message after its length, merged into one that is there already. -/
def readMessage {α : Type} (field : FieldReader α) (message : α) (input : List UInt8) :
    Except Error (α × Rest input) :=
  match readVarint input with
  | .error error => .error error
  | .ok (length, ⟨rest, shorter⟩) =>
    if rest.length < length then fail .underflow
    else
      match readFields field (rest.length - length) message rest with
      | .error error => .error error
      | .ok (result, ⟨after, notLonger⟩) => .ok (result, ⟨after, notLonger.trans_shorter shorter⟩)

def readSubmessage {α : Type} (field : FieldReader α) (message : α) (wireType : WireType)
    (input : List UInt8) : Reading α input :=
  match checkWireType wireType .lengthDelimited with
  | .error error => .error error
  | .ok () =>
    match readMessage field message input with
    | .ok (result, ⟨rest, shorter⟩) => .ok (result, ⟨rest, shorter.notLonger⟩)
    | .error error => .error error

/-- The level of nesting that is too deep, a message that stands by itself being the first. -/
def nestingLimit : Nat := 100

/-- The value of a field put into the message. -/
def Reading.store {α β : Type} {input : List UInt8} (put : β → α) :
    Reading β input → Reading α input
  | .error error => .error error
  | .ok (value, rest) => .ok (put value, rest)

end ScanMerge.Wire
