import ScanMerge.Proofs.Utf8
import ScanMerge.Wire.Reader

/-!
Writing messages in the wire format, and reading them back. A reader gives back the value that was
written and leaves what comes after it alone, so what is known of single fields carries over to runs
of fields, to messages inside messages and to messages one after the other.

Lengths are written as varints of 64 bits. Nothing longer than such a number can say is written.
-/

set_option autoImplicit false

namespace ScanMerge.Wire

/-! ### Writing -/

/-- A number as a varint, `more` bytes following the first one at most: seven bits a byte, the low
ones first. -/
def varintOf : (more : Nat) → (value : Nat) → List UInt8
  | 0, value => [UInt8.ofNat value]
  | more + 1, value =>
    if value < 128 then [UInt8.ofNat value]
    else UInt8.ofNat (128 + value % 128) :: varintOf more (value / 128)

def varint (value : Nat) : List UInt8 :=
  varintOf 9 value

def key (tag : Nat) (wireType : WireType) : List UInt8 :=
  varint (tag * 8 + wireType.code)

/-- Bytes after their length. -/
def delimited (bytes : List UInt8) : List UInt8 :=
  varint bytes.length ++ bytes

def messageField (tag : Nat) (bytes : List UInt8) : List UInt8 :=
  key tag .lengthDelimited ++ delimited bytes

/-- A message, if there is one, as the value of a field. -/
def optionalField {β : Type} (tag : Nat) (encode : β → List UInt8) (value? : Option β) :
    List UInt8 :=
  value?.elim [] fun value => messageField tag (encode value)

/-- A type of values that are no messages: how they are written, and the value that stands for a
field left out. -/
structure Scalar (β : Type) where
  wireType : WireType
  default : β
  write : β → List UInt8

namespace Scalar

variable {β : Type} [DecidableEq β]

/-- A field, left out if it has the default value. -/
def field (scalar : Scalar β) (tag : Nat) (value : β) : List UInt8 :=
  if value = scalar.default then [] else key tag scalar.wireType ++ scalar.write value

def word : Scalar UInt32 :=
  ⟨.varint, 0, fun value => varint value.toNat⟩

/-- Numbers of 32 bits with a sign, which is extended to 64 bits. -/
def signed : Scalar Int32 :=
  ⟨.varint, 0, fun value => varint value.toInt64.toUInt64.toNat⟩

def flag : Scalar Bool :=
  ⟨.varint, false, fun value => varint value.toNat⟩

def text : Scalar String :=
  ⟨.lengthDelimited, "", fun value => delimited (Text.Utf8.encodeString value)⟩

end Scalar

/-- The bytes are no more than a length can say. -/
def Fits (bytes : List UInt8) : Prop :=
  bytes.length < UInt64.size

theorem Fits.of_sublist {part bytes : List UInt8} (within : part.Sublist bytes)
    (fits : Fits bytes) : Fits part :=
  Nat.lt_of_le_of_lt within.length_le fits

def Gives {α : Type} {p : List UInt8 → Prop}
    (outcome : Except Error (α × { rest : List UInt8 // p rest })) (value : α)
    (rest : List UInt8) : Prop :=
  ∃ proper : p rest, outcome = .ok (value, ⟨rest, proper⟩)

/-! ### Varints and keys -/

/-- The last byte of a varint; only the tenth one has less room than seven bits. -/
theorem gives_lastByte {count value : Nat} (small : value < 128) (room : count = 9 → value < 2)
    (low : Nat) (after : List UInt8) :
    Gives (readVarintFrom count low (UInt8.ofNat value :: after)) (low + value * Nat.pow 128 count)
      after := by
  have byte : (UInt8.ofNat value).toNat = value := Text.Utf8.toNat_byte (by omega)
  have last : UInt8.ofNat value < 0x80 := (Text.Utf8.byte_lt (by omega)).mpr small
  have inRange : ¬ (count = 9 ∧ greatestTenthByte < UInt8.ofNat value) := by
    rintro ⟨tenth, greater⟩
    rw [UInt8.lt_iff_toNat_lt, byte] at greater
    exact Nat.not_le.mpr (room tenth) greater
  refine ⟨shorter_cons_self, ?_⟩
  simp only [readVarintFrom, if_pos last, if_neg inRange, byte, Nat.mod_eq_of_lt small]

/-- A byte of a varint that another one follows. -/
theorem gives_nextByte {count low value : Nat} {rest after : List UInt8} (bits : Nat)
    (room : count < 9)
    (reads : Gives (readVarintFrom (count + 1) (low + bits % 128 * Nat.pow 128 count) rest) value
      after) :
    Gives (readVarintFrom count low (UInt8.ofNat (128 + bits % 128) :: rest)) value after := by
  have byte : (UInt8.ofNat (128 + bits % 128)).toNat % 128 = bits % 128 := by
    rw [Text.Utf8.toNat_byte (by omega)]
    omega
  have notLast : ¬ UInt8.ofNat (128 + bits % 128) < 0x80 := by
    rw [Text.Utf8.byte_lt (by omega)]
    change ¬ 128 + bits % 128 < 128
    omega
  obtain ⟨shorter, reads⟩ := reads
  refine ⟨shorter.cons, ?_⟩
  simp only [readVarintFrom, if_neg notLast, if_pos room, byte, reads]

/-- After `count` bytes a varint has room for what keeps it below 64 bits. -/
theorem gives_readVarintFrom (count : Nat) {more value : Nat} (room : count + more = 9)
    (bound : value * Nat.pow 128 count < UInt64.size) (low : Nat) (after : List UInt8) :
    Gives (readVarintFrom count low (varintOf more value ++ after))
      (low + value * Nat.pow 128 count) after := by
  -- Each byte divides the value still to come by 128 and multiplies its weight by 128, so the bound
  -- on their product stays; at the tenth byte it leaves a single bit.
  induction more generalizing count low value with
  | zero =>
    obtain rfl : count = 9 := room
    have small : value < 2 := by
      change value * 9223372036854775808 < 18446744073709551616 at bound
      omega
    exact gives_lastByte (Nat.lt_trans small (by decide)) (fun _ => small) low after
  | succ more ih =>
    rw [varintOf]
    by_cases small : value < 128
    · rw [if_pos small]
      exact gives_lastByte small (fun tenth => by omega) low after
    · rw [if_neg small]
      have parts : value % 128 * Nat.pow 128 count + value / 128 * Nat.pow 128 (count + 1) =
          value * Nat.pow 128 count := by
        change _ + _ * (Nat.pow 128 count * 128) = _
        rw [Nat.mul_comm _ 128, ← Nat.mul_assoc, ← Nat.add_mul, Nat.mul_comm _ 128,
          Nat.mod_add_div]
      have bound' : value / 128 * Nat.pow 128 (count + 1) < UInt64.size := by omega
      have later := ih (count + 1) (by omega) bound' (low + value % 128 * Nat.pow 128 count)
      rw [Nat.add_assoc, parts] at later
      exact gives_nextByte value (by omega) later

theorem gives_readVarint {value : Nat} (bound : value < UInt64.size) (after : List UInt8) :
    Gives (readVarint (varint value ++ after)) value after := by
  have whole : value * Nat.pow 128 0 = value := Nat.mul_one value
  have reads := gives_readVarintFrom 0 (Nat.zero_add 9) (by rwa [whole]) 0 after
  rwa [Nat.zero_add, whole] at reads

/-- A tag that is not zero and leaves room for the wire type in a key. -/
def IsTag (tag : Nat) : Prop :=
  0 < tag ∧ tag * 8 + 8 ≤ keyBound

instance (tag : Nat) : Decidable (IsTag tag) :=
  inferInstanceAs (Decidable (_ ∧ _))

theorem gives_readKey {tag : Nat} (isTag : IsTag tag) (wireType : WireType)
    (after : List UInt8) :
    Gives (readKey (key tag wireType ++ after)) ⟨tag, wireType⟩ after := by
  obtain ⟨positive, room⟩ := isTag
  have code : wireType.code < 8 := by cases wireType <;> decide
  have inBound : ¬ keyBound ≤ tag * 8 + wireType.code := by omega
  have low : (tag * 8 + wireType.code) % 8 = wireType.code := by omega
  have high : (tag * 8 + wireType.code) / 8 = tag := by omega
  have bound : tag * 8 + wireType.code < UInt64.size :=
    Nat.lt_trans (Nat.not_le.mp inBound) (by decide)
  obtain ⟨shorter, reads⟩ := gives_readVarint bound after
  refine ⟨shorter, ?_⟩
  simp [readKey, key, reads, inBound, low, high, WireType.ofCode?_code, Nat.ne_of_gt positive]

/-! ### Values -/

theorem gives_readNumber {value : Nat} (bound : value < UInt64.size) (after : List UInt8) :
    Gives (readNumber .varint (varint value ++ after)) value after := by
  obtain ⟨shorter, reads⟩ := gives_readVarint bound after
  exact ⟨shorter.notLonger, by simp [readNumber, checkWireType, reads]⟩

theorem gives_readBytes {bytes : List UInt8} (fits : Fits bytes) (after : List UInt8) :
    Gives (readBytes .lengthDelimited (delimited bytes ++ after)) bytes after := by
  have length := gives_readVarint fits (bytes ++ after)
  rw [← List.append_assoc, ← delimited] at length
  obtain ⟨shorter, reads⟩ := length
  have enough : ¬ (bytes ++ after).length < bytes.length := by simp
  have notLonger : NotLonger after (bytes ++ after) := by simp [NotLonger]
  refine ⟨notLonger.past shorter, ?_⟩
  simp only [readBytes, checkWireType, reads, if_true, if_neg enough, List.take_left,
    List.drop_left]

theorem gives_readString {value : String} (fits : Fits (Text.Utf8.encodeString value))
    (after : List UInt8) :
    Gives (readString .lengthDelimited (Scalar.text.write value ++ after)) value after := by
  obtain ⟨notLonger, reads⟩ := gives_readBytes fits after
  refine ⟨notLonger, ?_⟩
  have back : Text.Utf8.decode? (Text.Utf8.encodeString value) = some value.toList :=
    Text.Utf8.decode?_encode value.toList
  simp only [readString, Scalar.text, reads, back, String.ofList_toList]

namespace Gives

variable {α β : Type} {input after : List UInt8} {reading : Reading α input} {value : α}

theorem inField (reads : Gives reading value after) (field : String) :
    Gives (reading.inField field) value after := by
  obtain ⟨notLonger, rfl⟩ := reads
  exact ⟨notLonger, rfl⟩

theorem store (reads : Gives reading value after) (put : α → β) :
    Gives (reading.store put) (put value) after := by
  obtain ⟨notLonger, rfl⟩ := reads
  exact ⟨notLonger, rfl⟩

end Gives

/-! ### Runs of fields -/

section Fields

variable {α : Type} {field : FieldReader α}

/-- The bytes are a field that takes one message to the next, whatever comes after them. -/
def Takes (field : FieldReader α) (bytes : List UInt8) (message next : α) : Prop :=
  ∀ after, ∃ key rest, Gives (readKey (bytes ++ after)) key rest ∧
    Gives (field message key rest) next after

/-- The bytes are fields one after the other, which take one message to another. -/
inductive Run (field : FieldReader α) : List UInt8 → α → α → Prop where
  | done (message : α) : Run field [] message message
  | next {bytes more : List UInt8} {message next last : α} (first : Takes field bytes message next)
      (others : Run field more next last) : Run field (bytes ++ more) message last

theorem Takes.run {bytes : List UInt8} {message next : α} (takes : Takes field bytes message next) :
    Run field bytes message next := by
  have run := Run.next takes (.done next)
  rwa [List.append_nil] at run

theorem Run.trans {bytes more : List UInt8} {message next last : α}
    (first : Run field bytes message next) (others : Run field more next last) :
    Run field (bytes ++ more) message last := by
  induction first with
  | done => exact others
  | next takes _ ih =>
    rw [List.append_assoc]
    exact .next takes (ih others)

/-- The fields of a run are read, and nothing after them. -/
theorem Run.gives_readFields {bytes : List UInt8} {message last : α}
    (run : Run field bytes message last) (after : List UInt8) :
    Gives (readFields field after.length message (bytes ++ after)) last after := by
  induction run with
  | done message =>
    rw [List.nil_append]
    refine ⟨.refl, ?_⟩
    rw [readFields, if_neg (Nat.lt_irrefl _), if_pos rfl]
  | @next bytes more message next last takes _ ih =>
    -- What the field is read before is the rest of the run and then `after`.
    obtain ⟨key, rest, ⟨shorter, readsKey⟩, ⟨notLonger, readsField⟩⟩ := takes (more ++ after)
    obtain ⟨notLonger', readsOthers⟩ := ih
    have left : NotLonger (more ++ after) (bytes ++ (more ++ after)) := notLonger.past shorter
    have more : after.length < (bytes ++ (more ++ after)).length :=
      Nat.lt_of_le_of_lt (notLonger'.trans notLonger) shorter
    rw [List.append_assoc]
    refine ⟨notLonger'.trans left, ?_⟩
    rw [readFields, if_pos more]
    simp only [readsKey, readsField, readsOthers]

/-- A message is read up to the end that its length says. -/
theorem Run.gives_readMessage {bytes : List UInt8} {message last : α}
    (run : Run field bytes message last) (fits : Fits bytes) (after : List UInt8) :
    Gives (readMessage field message (delimited bytes ++ after)) last after := by
  have length := gives_readVarint fits (bytes ++ after)
  rw [← List.append_assoc, ← delimited] at length
  obtain ⟨shorter, readsLength⟩ := length
  obtain ⟨notLonger, readsFields⟩ := run.gives_readFields after
  have enough : ¬ (bytes ++ after).length < bytes.length := by simp
  have limit : (bytes ++ after).length - bytes.length = after.length := by simp
  refine ⟨notLonger.trans_shorter shorter, ?_⟩
  simp only [readMessage, readsLength, if_neg enough, limit, readsFields]

/-! ### Written messages -/

/-- The bytes, if a length can say how many they are, are fields that take a message to another. -/
def Writes (field : FieldReader α) (bytes : List UInt8) (message last : α) : Prop :=
  Fits bytes → Run field bytes message last

theorem Writes.done (message : α) : Writes field [] message message :=
  fun _ => .done message

theorem Writes.trans {bytes more : List UInt8} {message next last : α}
    (first : Writes field bytes message next) (others : Writes field more next last) :
    Writes field (bytes ++ more) message last := by
  intro fits
  have run := first (fits.of_sublist (List.sublist_append_left bytes more))
  exact run.trans (others (fits.of_sublist (List.sublist_append_right bytes more)))

/-- Fields written one after the other for the items of a list. -/
theorem Writes.flatMap {β : Type} {write : β → List UInt8} {put : α → β → α}
    (each : ∀ message item, Writes field (write item) message (put message item)) (items : List β)
    (message : α) : Writes field (items.flatMap write) message (items.foldl put message) := by
  induction items generalizing message with
  | nil => exact .done message
  | cons item rest ih => exact (each message item).trans (ih (put message item))

theorem takes_of_gives {tag : Nat} (isTag : IsTag tag) {wireType : WireType} {bytes : List UInt8}
    {message next : α}
    (reads : ∀ after, Gives (field message ⟨tag, wireType⟩ (bytes ++ after)) next after) :
    Takes field (key tag wireType ++ bytes) message next := by
  intro after
  rw [List.append_assoc]
  exact ⟨_, _, gives_readKey isTag wireType (bytes ++ after), reads after⟩

/-- A field that is left out if its value is the default is written, if the message that it is put
into has the default. -/
theorem Scalar.writes {β : Type} [DecidableEq β] (scalar : Scalar β) {tag : Nat}
    (isTag : IsTag tag) {message : α} (put : β → α) (same : put scalar.default = message)
    {value : β}
    (reads : Fits (scalar.write value) → ∀ after,
      Gives (field message ⟨tag, scalar.wireType⟩ (scalar.write value ++ after)) (put value) after) :
    Writes field (scalar.field tag value) message (put value) := by
  rw [Scalar.field]
  split
  · next default =>
    rw [default, same]
    exact .done message
  · intro fits
    exact (takes_of_gives isTag (reads (fits.of_sublist (List.sublist_append_right _ _)))).run

/-- A message is written as a field, if the field is read as the message is. -/
theorem Writes.messageField {β : Type} {inner : FieldReader β} {bytes : List UInt8}
    {start value : β} (written : Writes inner bytes start value) {tag : Nat} (isTag : IsTag tag)
    {message next : α}
    (reads : ∀ after,
      Gives (readSubmessage inner start .lengthDelimited (delimited bytes ++ after)) value after →
      Gives (field message ⟨tag, .lengthDelimited⟩ (delimited bytes ++ after)) next after) :
    Writes field (messageField tag bytes) message next := by
  intro fits
  have inside : Fits (delimited bytes) := fits.of_sublist (List.sublist_append_right _ _)
  have fitsBytes : Fits bytes := inside.of_sublist (List.sublist_append_right _ _)
  refine (takes_of_gives isTag fun after => reads after ?_).run
  obtain ⟨shorter, read⟩ := (written fitsBytes).gives_readMessage fitsBytes after
  exact ⟨shorter.notLonger, by simp [readSubmessage, checkWireType, read]⟩

theorem writes_optionalField {β : Type} (field : FieldReader α) (tag : Nat) (isTag : IsTag tag)
    {inner : FieldReader β} {encode : β → List UInt8} {start : β}
    (written : ∀ value, Writes inner (encode value) start value) (put : Option β → α)
    (reads : ∀ value after,
      Gives (readSubmessage inner start .lengthDelimited (delimited (encode value) ++ after)) value
        after →
      Gives (field (put none) ⟨tag, .lengthDelimited⟩ (delimited (encode value) ++ after))
        (put (some value)) after)
    (value? : Option β) :
    Writes field (optionalField tag encode value?) (put none) (put value?) := by
  cases value? with
  | none => exact .done (put none)
  | some value => exact (written value).messageField isTag (reads value)

end Fields

end ScanMerge.Wire
