import ScanMerge.Json.Parser
import ScanMerge.KeyMap

/-!
Reading records directly from JSON text. What does not fit is refused where it stands, before the
text behind it is looked at. A value that nothing asks for is passed over and need not be one that
the parser accepts: its numbers may have any size, its escapes any code points, its brackets any
depth.
-/

set_option autoImplicit false

namespace ScanMerge.Json

/-! ### Values that do not matter -/

/-- An exponent after its letter: a sign, if any, and digits. -/
def passExponent (input : List UInt8) : Except Stop (Remainder input) :=
  match shape : unsigned input with
  | [] => stopBefore .invalidNumber []
  | first :: rest =>
    if isDigit first then
      have bound := notLonger_of_unsigned shape
      .ok ⟨rest.dropWhile isDigit, (notLonger_dropWhile isDigit rest).cons.trans bound⟩
    else
      stopBefore .invalidNumber rest

/-- The exponent of a number, if it has one. -/
def passScaled (input : List UInt8) : Except Stop (Remainder input) :=
  match input with
  | byte :: rest =>
    if byte = 0x65 ∨ byte = 0x45 then
      match passExponent rest with
      | .ok after => .ok after.cons
      | .error stop => .error stop
    else
      .ok Remainder.all
  | [] => .ok Remainder.all

/-- What follows the integer digits of a number. -/
def passAfterInteger (input : List UInt8) : Except Stop (Remainder input) :=
  match input with
  | 0x2E :: rest =>
    let after := rest.dropWhile isDigit
    have bound := notLonger_dropWhile isDigit rest
    if after.length = rest.length then stopAt .invalidNumber rest
    else
      match passScaled after with
      | .ok ⟨last, bound'⟩ => .ok ⟨last, (bound'.trans bound).cons⟩
      | .error stop => .error stop
  | input => passScaled input

/-- A number after its sign. -/
def passNumber : (input : List UInt8) →
    Except Stop (Rest input)
  | [] => stopBefore .invalidNumber []
  | first :: rest =>
    if first = 0x30 then
      if (rest.head?.map isDigit).getD false then stopAt .invalidNumber rest
      else
        match passAfterInteger rest with
        | .ok after => .ok after.past
        | .error stop => .error stop
    else if isDigit first then
      match passAfterInteger (rest.dropWhile isDigit) with
      | .ok ⟨after, bound⟩ =>
        .ok ⟨after, (bound.trans (notLonger_dropWhile isDigit rest)).shorter_cons⟩
      | .error stop => .error stop
    else
      stopBefore .invalidNumber rest

/-- A string after its opening quote. -/
def passString (input : List UInt8) :
    Except Stop (Rest input) :=
  match input with
  | [] => stopBefore .eofInString []
  | byte :: rest =>
    if byte = 0x22 then .ok Rest.tail
    else if byte = 0x5C then
      match rest with
      | [] => stopBefore .eofInString []
      | letter :: after =>
        if letter = 0x75 then
          match readHex after with
          | .error stop => .error stop
          | .ok (_, ⟨last, shorter⟩) =>
            match passString last with
            | .error stop => .error stop
            | .ok ⟨done, shorter'⟩ => .ok ⟨done, (shorter'.trans shorter).cons.cons⟩
        else if (simpleEscape? letter).isSome then
          match passString after with
          | .error stop => .error stop
          | .ok done => .ok done.cons.cons
        else
          stopBefore .invalidEscape after
    else if byte < 0x20 then stopBefore .controlCharacter (byte :: rest)
    else
      match passString rest with
      | .error stop => .error stop
      | .ok done => .ok done.cons
termination_by input.length
decreasing_by
  · exact shorter.cons.cons
  · exact shorter_cons_self.cons
  · exact shorter_cons_self

inductive Bracket where
  | list
  | object
  deriving DecidableEq, Repr

def Bracket.closing : Bracket → UInt8
  | .list => 0x5D
  | .object => 0x7D

/-- The fault of an input that ends inside a bracket. -/
def Bracket.atEnd : Bracket → Fault
  | .list => .eofInList
  | .object => .eofInObject

/-- The fault of an input that goes on with something else than a comma or the end. -/
def Bracket.unclosed : Bracket → Fault
  | .list => .expectedListCommaOrEnd
  | .object => .expectedObjectCommaOrEnd

/-- Where a walk over values is. -/
inductive Spot where
  /-- In front of a value. -/
  | value
  /-- Behind an opening bracket. -/
  | opened
  /-- Behind a value in a bracket. -/
  | behind
  deriving DecidableEq, Repr

/-- Walks that have read nothing go from one spot to another of less weight. -/
def Spot.weight : Spot → Nat
  | .value => 0
  | .opened => 1
  | .behind => 1

/-- The name and the colon of a member of an object; in a list nothing. -/
def passName (bracket : Bracket) (input : List UInt8) : Except Stop (Remainder input) :=
  match bracket with
  | .list => .ok Remainder.all
  | .object =>
    match shape : skipSpaces input with
    | [] => stopBefore .eofInObject []
    | byte :: rest =>
      if byte = 0x22 then
        match passString rest with
        | .error stop => .error stop
        | .ok ⟨after, shorter⟩ =>
          match readColon after with
          | .error stop => .error stop
          | .ok ⟨last, shorter'⟩ =>
            have bound := shorter_of_skipSpaces shape
            .ok ⟨last, (shorter'.trans (shorter.trans bound)).notLonger⟩
      else
        stopAt .keyMustBeString (byte :: rest)

/-- A value without brackets, or an opening bracket. -/
def passScalar (input : List UInt8) :
    Except Stop (Option Bracket × Rest input) :=
  match shape : skipSpaces input with
  | [] => stopBefore .eofInValue []
  | byte :: rest =>
    have bound := shorter_of_skipSpaces shape
    let word (expected : List UInt8) :
        Except Stop (Option Bracket × Rest input) :=
      match readIdent expected rest with
      | .ok ⟨after, notLonger⟩ => .ok (none, ⟨after, notLonger.trans_shorter bound⟩)
      | .error stop => .error stop
    if byte = 0x6E then word [0x75, 0x6C, 0x6C]
    else if byte = 0x74 then word [0x72, 0x75, 0x65]
    else if byte = 0x66 then word [0x61, 0x6C, 0x73, 0x65]
    else if byte = 0x2D then
      match passNumber rest with
      | .ok ⟨after, shorter⟩ => .ok (none, ⟨after, shorter.trans bound⟩)
      | .error stop => .error stop
    else if isDigit byte then
      match passNumber (byte :: rest) with
      | .ok ⟨after, shorter⟩ => .ok (none, ⟨after, shorter_behind_spaces shape shorter⟩)
      | .error stop => .error stop
    else if byte = 0x22 then
      match passString rest with
      | .ok ⟨after, shorter⟩ => .ok (none, ⟨after, shorter.trans bound⟩)
      | .error stop => .error stop
    else if byte = 0x5B then .ok (some .list, ⟨rest, bound⟩)
    else if byte = 0x7B then .ok (some .object, ⟨rest, bound⟩)
    else stopAt .expectedValue (byte :: rest)

/-- The byte that closes a bracket, if it comes next. The input does not end here. -/
def passClosing (bracket : Bracket) (input : List UInt8) :
    Except Stop (Option (Rest input)) :=
  match shape : skipSpaces input with
  | [] => stopBefore bracket.atEnd []
  | byte :: rest =>
    if byte = bracket.closing then
      .ok (some ⟨rest, shorter_of_skipSpaces shape⟩)
    else
      .ok none

def passComma (bracket : Bracket) (input : List UInt8) :
    Except Stop (Rest input) :=
  match shape : skipSpaces input with
  | [] => stopBefore bracket.atEnd []
  | byte :: rest =>
    if byte = 0x2C then
      .ok ⟨rest, shorter_of_skipSpaces shape⟩
    else
      stopAt bracket.unclosed (byte :: rest)

/-- Walks on from a spot inside brackets, the innermost first, until all of them are closed. -/
def passFrom (spot : Spot) (brackets : List Bracket) (input : List UInt8) :
    Except Stop (Remainder input) :=
  match spot, brackets with
  | .value, brackets =>
    match passScalar input with
    | .error stop => .error stop
    | .ok (some bracket, ⟨rest, shorter⟩) =>
      match passFrom .opened (bracket :: brackets) rest with
      | .error stop => .error stop
      | .ok ⟨last, bound⟩ => .ok ⟨last, bound.past shorter⟩
    | .ok (none, ⟨rest, shorter⟩) =>
      match passFrom .behind brackets rest with
      | .error stop => .error stop
      | .ok ⟨last, bound⟩ => .ok ⟨last, bound.past shorter⟩
  | .opened, [] => .ok Remainder.all
  | .behind, [] => .ok Remainder.all
  | .opened, bracket :: outer =>
    match passClosing bracket input with
    | .error stop => .error stop
    | .ok (some ⟨rest, shorter⟩) =>
      match passFrom .behind outer rest with
      | .error stop => .error stop
      | .ok ⟨last, bound⟩ => .ok ⟨last, bound.past shorter⟩
    | .ok none =>
      match passName bracket input with
      | .error stop => .error stop
      | .ok ⟨start, bound⟩ =>
        match passFrom .value (bracket :: outer) start with
        | .error stop => .error stop
        | .ok ⟨last, bound'⟩ => .ok ⟨last, bound'.trans bound⟩
  | .behind, bracket :: outer =>
    match passClosing bracket input with
    | .error stop => .error stop
    | .ok (some ⟨rest, shorter⟩) =>
      match passFrom .behind outer rest with
      | .error stop => .error stop
      | .ok ⟨last, bound⟩ => .ok ⟨last, bound.past shorter⟩
    | .ok none =>
      match passComma bracket input with
      | .error stop => .error stop
      | .ok ⟨rest, shorter⟩ =>
        match passName bracket rest with
        | .error stop => .error stop
        | .ok ⟨start, bound⟩ =>
          match passFrom .value (bracket :: outer) start with
          | .error stop => .error stop
          | .ok ⟨last, bound'⟩ => .ok ⟨last, (bound'.trans bound).past shorter⟩
termination_by 2 * input.length + spot.weight
decreasing_by all_goals simp only [Spot.weight]; omega

def passValue (input : List UInt8) :
    Except Stop (Rest input) :=
  match passScalar input with
  | .error stop => .error stop
  | .ok (some bracket, ⟨rest, shorter⟩) =>
    match passFrom .opened [bracket] rest with
    | .error stop => .error stop
    | .ok ⟨last, bound⟩ => .ok ⟨last, bound.trans_shorter shorter⟩
  | .ok (none, rest) => .ok rest

/-! ### Readers of values -/

/-- Reads values of a type. Fewer than `depth` arrays and objects may be open inside one another. -/
abbrev Decoder (α : Type) : Type :=
  (depth : Nat) → (input : List UInt8) → Reading α input

/-- The fault of a value that is not what is expected. Arrays and objects are not entered. -/
def refuse {α : Type} (expected : String) (input : List UInt8) : Except Stop α :=
  match skipSpaces input with
  | [] => stopBefore .eofInValue []
  | byte :: rest =>
    if byte = 0x5B then
      stopBefore (.unexpected (.invalidType .sequence expected)) (byte :: rest)
    else if byte = 0x7B then
      stopBefore (.unexpected (.invalidType .map expected)) (byte :: rest)
    else
      match readValue nestingLimit (byte :: rest) with
      | .ok (value, ⟨after, _⟩) =>
        stopBefore (.unexpected (.invalidType value.kind expected)) after
      | .error stop => .error stop

/-- The input after an opening byte; an input that starts otherwise is refused. -/
def readOpening (opening : UInt8) (expected : String) (input : List UInt8) :
    Except Stop (Rest input) :=
  match shape : skipSpaces input with
  | [] => stopBefore .eofInValue []
  | byte :: rest =>
    if byte = opening then
      .ok ⟨rest, shorter_of_skipSpaces shape⟩
    else
      refuse expected (byte :: rest)

namespace Decoder

variable {α β : Type}

/-- Makes something else of the value. -/
def convert (f : α → β) (decoder : Decoder α) : Decoder β := fun depth input =>
  match decoder depth input with
  | .ok (value, rest) => .ok (f value, rest)
  | .error stop => .error stop

/-- Goes on behind an opening bracket, unless that is one too many. -/
def enter (depth : Nat) {input : List UInt8} (inside : (inner : Nat) → Reading α input) :
    Reading α input :=
  match depth with
  | 0 | 1 => stopBefore .nestedTooDeep input
  | inner + 1 => inside inner

def textFor (expected : String) : Decoder String := fun _ input =>
  match readOpening 0x22 expected input with
  | .error stop => .error stop
  | .ok ⟨rest, shorter⟩ => (readString rest).ofEnd shorter.notLonger

def text : Decoder String :=
  textFor "a string"

/-- Any value, in normal form. -/
def any : Decoder Json :=
  convert normal readValue

/-- A value of a type, or null. -/
def optional (item : Decoder α) : Decoder (Option α) := fun depth input =>
  match shape : skipSpaces input with
  | 0x6E :: rest =>
    match readIdent [0x75, 0x6C, 0x6C] rest with
    | .error stop => .error stop
    | .ok ⟨after, bound⟩ =>
      .ok (none, ⟨after, bound.trans_shorter (shorter_of_skipSpaces shape)⟩)
  | _ => convert some item depth input

/-- An array of values of a type. -/
def list (item : Decoder α) : Decoder (List α) := fun depth input =>
  match readOpening 0x5B "a sequence" input with
  | .error stop => .error stop
  | .ok ⟨rest, shorter⟩ =>
    (enter depth fun inner => readItems (item inner) true rest).ofEnd shorter.notLonger

/-- An object with values of a type; of equal names the last one counts. -/
def map (item : Decoder α) : Decoder (KeyMap α) := fun depth input =>
  match readOpening 0x7B "a map" input with
  | .error stop => .error stop
  | .ok ⟨rest, shorter⟩ =>
    Reading.ofEnd shorter.notLonger
      (convert KeyMap.ofList (fun _ rest => enter depth fun inner =>
        readMembers (item inner) true rest) depth rest)

/-! ### Records -/

structure Field (α : Type) where
  name : String
  /-- The record need not have the field. -/
  optional : Bool
  /-- Reads the value of the field into the record so far. -/
  read : α → Decoder α

/-- A field that the record has to have. -/
def Field.required (name : String) (item : Decoder β) (store : α → β → α) : Field α :=
  ⟨name, false, fun record => convert (store record) item⟩

/-- A field that the record may leave out. -/
def Field.defaulted (name : String) (item : Decoder β) (store : α → β → α) : Field α :=
  ⟨name, true, fun record => convert (store record) item⟩

/-- The end of an array all of whose items were read. -/
def readListEnd (input : List UInt8) :
    Except Stop (Rest input) :=
  match shape : skipSpaces input with
  | [] => stopBefore .eofInList []
  | byte :: rest =>
    if byte = 0x5D then
      .ok ⟨rest, shorter_of_skipSpaces shape⟩
    else if byte = 0x2C then
      match skipSpaces rest with
      | 0x5D :: after => stopAt .trailingComma (0x5D :: after)
      | after => stopAt .trailingCharacters after
    else
      stopAt .trailingCharacters (byte :: rest)

/-- The fields of a record that is written as an array. The fields before them, `position` ones, are
read. -/
def readFieldItems (name : String) (depth position : Nat) :
    (fields : List (Field α)) → (value : α) → (input : List UInt8) → Reading α input
  | [], value, input => (readListEnd input).map fun rest => (value, rest)
  | field :: fields, value, input =>
    match nextItem (position = 0) input with
    | .error stop => .error stop
    | .ok (.done rest bound) =>
      match (field :: fields).findIdx? fun field => !field.optional with
      | none => .ok (value, ⟨rest, bound⟩)
      | some index =>
        let expected := describeFields name (position + (field :: fields).length)
        stopBefore (.unexpected (.invalidLength (position + index) expected)) rest
    | .ok (.element start bound) =>
      match field.read value depth start with
      | .error stop => .error stop
      | .ok (value, ⟨rest, shorter⟩) =>
        (readFieldItems name depth (position + 1) fields value rest).ofEnd
          (shorter.trans_notLonger bound).notLonger

/-- The input behind the closing brace, if that comes next, and otherwise behind blanks only. -/
def pastBrace (input : List UInt8) : List UInt8 :=
  match skipSpaces input with
  | 0x7D :: rest => rest
  | rest => rest

/-- The rest of a record that is written as an object and in which some fields are `present`. -/
def readFieldMembers (fields : List (Field α)) (depth : Nat) (present : List String) (value : α)
    (first : Bool) (input : List UInt8) : Reading α input :=
  match nextMember first input with
  | .error stop => .error stop
  | .ok (.done rest bound) =>
    match fields.find? fun field => !field.optional && !present.contains field.name with
    | some field => stopBefore (.unexpected (.missingField field.name)) rest
    | none => .ok (value, ⟨rest, bound⟩)
  | .ok (.element start bound) =>
    match readString start with
    | .error stop => .error stop
    | .ok (name, ⟨afterName, shorter⟩) =>
      if present.contains name then
        stopBefore (.unexpected (.duplicateField name)) (pastBrace afterName)
      else
        match readColon afterName with
        | .error stop => .error stop
        | .ok ⟨afterColon, shorter'⟩ =>
          match fields.find? (·.name = name) with
          | none =>
            match passValue afterColon with
            | .error stop => .error stop
            | .ok ⟨rest, shorter''⟩ =>
              have left := shorter''.trans (shorter'.trans (shorter.trans_notLonger bound))
              (readFieldMembers fields depth present value false rest).ofEnd left.notLonger
          | some field =>
            match field.read value depth afterColon with
            | .error stop => .error stop
            | .ok (value, ⟨rest, shorter''⟩) =>
              have left := shorter''.trans (shorter'.trans (shorter.trans_notLonger bound))
              (readFieldMembers fields depth (name :: present) value false rest).ofEnd
                left.notLonger
termination_by input.length
decreasing_by all_goals exact left

/-- A record. An object names each of its fields once at most, in any order; an array has their
values in order. -/
def record (name : String) (fields : List (Field α)) (start : α) : Decoder α := fun depth input =>
  match skipSpaces input with
  | 0x5B :: _ =>
    match readOpening 0x5B name input with
    | .error stop => .error stop
    | .ok ⟨rest, shorter⟩ =>
      (enter depth fun inner => readFieldItems name inner 0 fields start rest).ofEnd
        shorter.notLonger
  | _ =>
    match readOpening 0x7B name input with
    | .error stop => .error stop
    | .ok ⟨rest, shorter⟩ =>
      (enter depth fun inner => readFieldMembers fields inner [] start true rest).ofEnd
        shorter.notLonger

/-! ### Words -/

def word (all : List α) (spelling : α → String) (expected : String) : Decoder α :=
  fun depth input =>
    match textFor expected depth input with
    | .error stop => .error stop
    | .ok (text, rest) =>
      match all.find? fun candidate => spelling candidate = text with
      | some found => .ok (found, rest)
      | none => stopBefore (.unexpected (.unknownVariant text (all.map spelling))) rest.val

/-- The colon, the null and the closing brace after a word in an object. -/
def readUnitMember (input : List UInt8) :
    Except Stop (Rest input) :=
  match readColon input with
  | .error stop => .error stop
  | .ok ⟨afterColon, shorter⟩ =>
    match readOpening 0x6E "unit" afterColon with
    | .error stop => .error stop
    | .ok ⟨afterLetter, shorter'⟩ =>
      match readIdent [0x75, 0x6C, 0x6C] afterLetter with
      | .error stop => .error stop
      | .ok ⟨afterNull, bound⟩ =>
        match shape : skipSpaces afterNull with
        | [] => stopBefore .eofInObject []
        | byte :: rest =>
          if byte = 0x7D then
            have left := bound.trans_shorter (shorter'.trans shorter)
            .ok ⟨rest, (shorter_of_skipSpaces shape).trans left⟩
          else
            stopBefore .expectedValue (byte :: rest)

/-- One of several values by its word. The word may also be the only name in an object, over null.
-/
def keyword (all : List α) (spelling : α → String) : Decoder α := fun depth input =>
  match skipSpaces input with
  | [] => stopBefore .eofInValue []
  | 0x22 :: _ => word all spelling "variant identifier" depth input
  | 0x7B :: _ =>
    match readOpening 0x7B "" input with
    | .error stop => .error stop
    | .ok ⟨start, shorter⟩ =>
      Reading.ofEnd shorter.notLonger <| enter depth fun inner =>
        match word all spelling "variant identifier" inner start with
        | .error stop => .error stop
        | .ok (found, ⟨afterWord, shorter'⟩) =>
          match readUnitMember afterWord with
          | .error stop => .error stop
          | .ok ⟨rest, shorter''⟩ => .ok (found, ⟨rest, shorter''.trans shorter'⟩)
  | other => stopAt .expectedValue other

/-- Reads the one value of a text. -/
def decode (decoder : Decoder α) (input : List UInt8) : Except SyntaxError α :=
  readWhole (decoder nestingLimit) input

end Decoder

end ScanMerge.Json
