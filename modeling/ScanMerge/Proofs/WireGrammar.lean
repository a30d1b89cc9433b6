import ScanMerge.Proofs.WireEncoding

/-!
The bytes of the wire format, described without a reader by what they are made of: varints, keys,
values and fields that are not known. A reader accepts the bytes that make up what it reads, and no
others. So how far it looks is decided by the bytes that it takes from the front of an input,
however deep groups nest in them: bytes that were read once are read in the same way before anything
else, and no bytes that end too early are read at all.
-/

set_option autoImplicit false

namespace ScanMerge.Wire

/-! ### Readers that stand alone -/

section Readers

variable {α β : Type} {leaves : List UInt8 → List UInt8 → Prop}

theorem Gives.unique {p : List UInt8 → Prop}
    {outcome : Except Error (α × { rest : List UInt8 // p rest })} {value other : α}
    {rest last : List UInt8} (gives : Gives outcome value rest) (again : Gives outcome other last) :
    value = other ∧ rest = last := by
  obtain ⟨_, rfl⟩ := gives
  obtain ⟨_, same⟩ := again
  cases same
  exact ⟨rfl, rfl⟩

/-- The reader takes the bytes, and nothing behind them, as the value. -/
def ReadsAs (read : (input : List UInt8) → Except Error (α × { rest // leaves rest input }))
    (bytes : List UInt8) (value : α) : Prop :=
  ∀ after, Gives (read (bytes ++ after)) value after

/-- What the reader makes of an input is decided by the bytes that it takes. -/
def StandsAlone (read : (input : List UInt8) → Except Error (α × { rest // leaves rest input })) :
    Prop :=
  ∀ input value rest, Gives (read input) value rest →
    ∃ bytes, input = bytes ++ rest ∧ ReadsAs read bytes value

variable {read : (input : List UInt8) → Except Error (α × { rest // leaves rest input })}

/-- Bytes that end before those that the reader takes are not read. -/
theorem StandsAlone.cut (alone : StandsAlone read) {bytes part : List UInt8} {value : α}
    (reads : ReadsAs read bytes value) (isPart : part <+: bytes) (proper : part ≠ bytes) :
    ∃ error, read part = .error error := by
  cases given : read part with
  | error error => exact ⟨error, rfl⟩
  | ok result =>
    -- What was taken of the part is also at the front of all the bytes, of which it leaves some.
    obtain ⟨other, rest, left⟩ := result
    obtain ⟨taken, rfl, again⟩ := alone part other rest ⟨left, given⟩
    obtain ⟨missing, rfl⟩ := isPart
    have whole := reads []
    rw [List.append_nil, List.append_assoc] at whole
    obtain ⟨-, nothing⟩ := whole.unique (again (rest ++ missing))
    obtain ⟨-, rfl⟩ := List.append_eq_nil_iff.mp nothing.symm
    exact absurd (List.append_nil _).symm proper

theorem StandsAlone.reading (alone : StandsAlone read) {bytes : List UInt8} {value : α}
    (gives : Gives (read bytes) value []) : ReadsAs read bytes value := by
  obtain ⟨taken, rfl, reads⟩ := alone bytes value [] gives
  rwa [List.append_nil]

end Readers

/-! ### Bytes that a reader accepts -/

section Accepted

variable {α β : Type} {leaves : List UInt8 → List UInt8 → Prop}

/-- From the front of an input the reader takes bytes that say a value, and no others. -/
def Accepts (read : (input : List UInt8) → Except Error (α × { rest // leaves rest input }))
    (Says : List UInt8 → α → Prop) : Prop :=
  ∀ input value rest, Gives (read input) value rest ↔
    ∃ bytes, input = bytes ++ rest ∧ Says bytes value

variable {read : (input : List UInt8) → Except Error (α × { rest // leaves rest input })}
  {Says : List UInt8 → α → Prop}

theorem Accepts.reads (accepts : Accepts read Says) {bytes : List UInt8} {value : α}
    (said : Says bytes value) : ReadsAs read bytes value :=
  fun _ => (accepts _ _ _).mpr ⟨bytes, rfl, said⟩

theorem Accepts.standsAlone (accepts : Accepts read Says) : StandsAlone read := by
  intro input value rest gives
  obtain ⟨bytes, rfl, said⟩ := (accepts input value rest).mp gives
  exact ⟨bytes, rfl, accepts.reads said⟩

/-- A reader that changes only the value of another one. -/
theorem Accepts.map {within : List UInt8 → List UInt8 → Prop}
    {first : (input : List UInt8) → Except Error (β × { rest // within rest input })}
    {SaysFirst : List UInt8 → β → Prop} (accepts : Accepts first SaysFirst)
    (Becomes : β → α → Prop)
    (given : ∀ input value rest, Gives (read input) value rest ↔
      ∃ source, Gives (first input) source rest ∧ Becomes source value)
    (same : ∀ bytes value, (∃ source, SaysFirst bytes source ∧ Becomes source value) ↔
      Says bytes value) : Accepts read Says := by
  intro input value rest
  rw [given]
  constructor
  · rintro ⟨source, gives, becomes⟩
    obtain ⟨bytes, rfl, saysFirst⟩ := (accepts input source rest).mp gives
    exact ⟨bytes, rfl, (same bytes value).mp ⟨source, saysFirst, becomes⟩⟩
  · rintro ⟨bytes, rfl, said⟩
    obtain ⟨source, saysFirst, becomes⟩ := (same bytes value).mpr said
    exact ⟨source, accepts.reads saysFirst rest, becomes⟩

theorem Accepts.congr (accepts : Accepts read Says) {Tells : List UInt8 → α → Prop}
    (same : ∀ bytes value, Says bytes value ↔ Tells bytes value) : Accepts read Tells := by
  intro input value rest
  rw [accepts]
  simp only [same]

theorem Accepts.of_eq (accepts : Accepts read Says)
    {other : (input : List UInt8) → Except Error (α × { rest // leaves rest input })}
    (same : ∀ input, other input = read input) : Accepts other Says := by
  intro input value rest
  rw [same, accepts]

theorem Accepts.gives_nil_iff (accepts : Accepts read Says) {bytes : List UInt8} {value : α} :
    Gives (read bytes) value [] ↔ Says bytes value := by
  rw [accepts]
  simp only [List.append_nil, exists_eq_left']

section Stored

variable {input rest : List UInt8} {reading : Reading α input}

theorem gives_inField_iff {field : String} {value : α} :
    Gives (reading.inField field) value rest ↔ Gives reading value rest := by
  constructor
  · rintro ⟨left, given⟩
    cases reading with
    | error error => cases given
    | ok result =>
      cases given
      exact ⟨left, rfl⟩
  · exact fun gives => gives.inField field

theorem gives_store_iff {put : α → β} {message : β} :
    Gives (reading.store put) message rest ↔
      ∃ value, Gives reading value rest ∧ put value = message := by
  constructor
  · rintro ⟨left, given⟩
    cases reading with
    | error error => cases given
    | ok result =>
      obtain ⟨value, source⟩ := result
      cases given
      exact ⟨value, ⟨left, rfl⟩, rfl⟩
  · rintro ⟨value, gives, rfl⟩
    exact gives.store put

variable {read : (input : List UInt8) → Reading α input} (accepts : Accepts read Says)
include accepts

theorem Accepts.inField (name : String) :
    Accepts (fun input => (read input).inField name) Says := by
  intro input value rest
  rw [gives_inField_iff, accepts]

theorem Accepts.store (put : α → β) :
    Accepts (fun input => (read input).store put) fun bytes message =>
      ∃ value, Says bytes value ∧ put value = message :=
  accepts.map _ (fun _ _ _ => gives_store_iff) fun _ _ => Iff.rfl

end Stored

end Accepted

/-! ### Varints, keys and lengths -/

/-- Bytes of seven bits each, the low ones first. The high bit of a byte says that another one
follows. -/
inductive SevenBits : List UInt8 → Nat → Prop where
  | last {byte : UInt8} (low : byte.toNat < 128) : SevenBits [byte] byte.toNat
  | next {byte : UInt8} {bytes : List UInt8} {value : Nat} (high : 128 ≤ byte.toNat)
      (more : SevenBits bytes value) :
      SevenBits (byte :: bytes) (byte.toNat % 128 + 128 * value)

/-- The bytes are a number of 64 bits, not always in the shortest form. -/
structure IsVarint (bytes : List UInt8) (value : Nat) : Prop where
  bits : SevenBits bytes value
  short : bytes.length ≤ 10
  bound : value < UInt64.size

/-- The bytes are a key. -/
structure IsKey (bytes : List UInt8) (key : Key) : Prop where
  isTag : IsTag key.tag
  number : IsVarint bytes (key.tag * 8 + key.wireType.code)

/-- The bytes are a length, and so many bytes behind it. -/
def IsDelimited (content bytes : List UInt8) : Prop :=
  ∃ length, IsVarint length content.length ∧ bytes = length ++ content

theorem SevenBits.length_pos {bytes : List UInt8} {value : Nat} (bits : SevenBits bytes value) :
    0 < bytes.length := by
  cases bits <;> exact Nat.succ_pos _

/-- Seven bits and a number that stands behind them, each with its weight. -/
theorem weight_next (bits value count : Nat) :
    bits * Nat.pow 128 count + value * Nat.pow 128 (count + 1) =
      (bits + 128 * value) * Nat.pow 128 count := by
  change _ + value * (Nat.pow 128 count * 128) = _
  rw [Nat.mul_comm _ 128, ← Nat.mul_assoc, Nat.mul_comm value 128, ← Nat.add_mul]

theorem SevenBits.gives_readVarintFrom {bytes : List UInt8} {value : Nat}
    (bits : SevenBits bytes value) (count : Nat) (short : count + bytes.length ≤ 10)
    (bound : value * Nat.pow 128 count < UInt64.size) (low : Nat) (after : List UInt8) :
    Gives (readVarintFrom count low (bytes ++ after)) (low + value * Nat.pow 128 count) after := by
  induction bits generalizing count low with
  | @last byte last =>
    have room : count = 9 → byte.toNat < 2 := by
      rintro rfl
      change byte.toNat * 9223372036854775808 < 18446744073709551616 at bound
      omega
    have reads := gives_lastByte last room low after
    rwa [UInt8.ofNat_toNat] at reads
  | @next byte bytes value high more ih =>
    have parts := weight_next (byte.toNat % 128) value count
    have positive := more.length_pos
    rw [List.length_cons] at short
    have later := ih (count + 1) (by omega) (by omega)
      (low + byte.toNat % 128 * Nat.pow 128 count)
    rw [Nat.add_assoc, parts] at later
    have small := byte.toNat_lt
    have same : 128 + byte.toNat % 128 = byte.toNat := by omega
    have reads := gives_nextByte byte.toNat (by omega) later
    rwa [same, UInt8.ofNat_toNat] at reads

/-- Seven bits before a number of 64 bits. Room for the number's weight is room for a whole byte. -/
theorem lt_size_of_next {count bits value : Nat} (small : bits < 128) (room : count < 9)
    (bound : value * Nat.pow 128 (count + 1) < UInt64.size) :
    (bits + 128 * value) * Nat.pow 128 count < UInt64.size := by
  have divides : Nat.pow 128 (count + 1) ∣ UInt64.size :=
    Nat.dvd_trans (Nat.pow_dvd_pow 128 room) (by decide)
  obtain ⟨whole, size⟩ := divides
  have positive : 0 < Nat.pow 128 count := Nat.pow_pos (by decide)
  have less : value < whole := by
    rw [size, Nat.mul_comm] at bound
    exact Nat.lt_of_mul_lt_mul_left bound
  calc (bits + 128 * value) * Nat.pow 128 count
      < 128 * whole * Nat.pow 128 count := Nat.mul_lt_mul_of_pos_right (by omega) positive
    _ = Nat.pow 128 count * 128 * whole := by
      rw [Nat.mul_comm, Nat.mul_assoc]
    _ = UInt64.size := size.symm

/-- What is read of a varint are its seven bits a byte. -/
theorem exists_sevenBits {count low total : Nat} {input rest : List UInt8} (room : count ≤ 9)
    (gives : Gives (readVarintFrom count low input) total rest) :
    ∃ bytes value, input = bytes ++ rest ∧ SevenBits bytes value ∧ count + bytes.length ≤ 10 ∧
      value * Nat.pow 128 count < UInt64.size ∧ total = low + value * Nat.pow 128 count := by
  induction input generalizing count low with
  | nil => obtain ⟨_, ⟨⟩⟩ := gives
  | cons byte others ih =>
    obtain ⟨left, given⟩ := gives
    rw [readVarintFrom] at given
    split at given
    · next last =>
      have small : byte.toNat < 128 := UInt8.lt_iff_toNat_lt.mp last
      split at given
      · cases given
      · next inRange =>
        cases given
        have bound : byte.toNat * Nat.pow 128 count < UInt64.size := by
          -- Up to the ninth byte all seven bits have room, and in the tenth one a single bit.
          obtain before | rfl : count < 9 ∨ count = 9 := by omega
          · have nothing : 0 * Nat.pow 128 (count + 1) < UInt64.size := by
              rw [Nat.zero_mul]
              decide
            exact lt_size_of_next small before nothing
          · have tenth : byte.toNat ≤ 1 :=
              UInt8.le_iff_toNat_le.mp (UInt8.not_lt.mp fun greater => inRange ⟨rfl, greater⟩)
            change byte.toNat * 9223372036854775808 < 18446744073709551616
            omega
        refine ⟨[byte], byte.toNat, rfl, .last small, by rw [List.length_singleton]; omega, bound,
          ?_⟩
        rw [Nat.mod_eq_of_lt small]
    · next notLast =>
      split at given
      · next before =>
        split at given
        · next result after shorter reads =>
          cases given
          obtain ⟨bytes, value, rfl, bits, short, bound, rfl⟩ := ih before ⟨shorter, reads⟩
          have high : 128 ≤ byte.toNat := UInt8.le_iff_toNat_le.mp (UInt8.not_lt.mp notLast)
          have small : byte.toNat % 128 < 128 := Nat.mod_lt _ (by decide)
          refine ⟨byte :: bytes, _, rfl, .next high bits, by rw [List.length_cons]; omega,
            lt_size_of_next small before bound, ?_⟩
          rw [Nat.add_assoc, weight_next]
        · cases given
      · cases given

theorem IsVarint.reads {bytes : List UInt8} {value : Nat} (isVarint : IsVarint bytes value) :
    ReadsAs readVarint bytes value := by
  intro after
  have whole : value * Nat.pow 128 0 = value := Nat.mul_one value
  have short : 0 + bytes.length ≤ 10 := (Nat.zero_add _).symm ▸ isVarint.short
  have reads := isVarint.bits.gives_readVarintFrom 0 short (whole.symm ▸ isVarint.bound) 0 after
  rwa [Nat.zero_add, whole] at reads

theorem accepts_readVarint : Accepts readVarint IsVarint := by
  intro input value rest
  constructor
  · intro gives
    obtain ⟨bytes, value, front, bits, short, bound, rfl⟩ := exists_sevenBits (Nat.zero_le 9) gives
    have whole : value * Nat.pow 128 0 = value := Nat.mul_one value
    rw [whole] at bound ⊢
    rw [Nat.zero_add] at short ⊢
    exact ⟨bytes, front, bits, short, bound⟩
  · rintro ⟨bytes, rfl, isVarint⟩
    exact isVarint.reads rest

/-- A byte without the high bit is a number by itself. -/
theorem isVarint_byte (byte : UInt8) (low : byte.toNat < 128) : IsVarint [byte] byte.toNat :=
  ⟨.last low, by simp, Nat.lt_trans low (by decide)⟩

theorem WireType.ofCode?_eq_some_iff {code : Nat} {wireType : WireType} :
    ofCode? code = some wireType ↔ code = wireType.code := by
  constructor
  · intro given
    unfold ofCode? at given
    split at given <;> cases given <;> rfl
  · rintro rfl
    exact ofCode?_code wireType

theorem gives_readKey_iff (input : List UInt8) (key : Key) (rest : List UInt8) :
    Gives (readKey input) key rest ↔
      ∃ number, Gives (readVarint input) number rest ∧ IsTag key.tag ∧
        number = key.tag * 8 + key.wireType.code := by
  constructor
  · rintro ⟨left, given⟩
    rw [readKey] at given
    split at given
    · cases given
    · next number after reads =>
      split at given
      · cases given
      · next inBound =>
        split at given
        · cases given
        · next wireType code =>
          split at given
          · cases given
          · next notZero =>
            cases given
            have low := WireType.ofCode?_eq_some_iff.mp code
            have size : keyBound % 8 = 0 := rfl
            have room : number / 8 * 8 + 8 ≤ keyBound := by omega
            have whole : number = number / 8 * 8 + wireType.code := by omega
            exact ⟨number, ⟨left, reads⟩, ⟨Nat.pos_of_ne_zero notZero, room⟩, whole⟩
  · rintro ⟨number, ⟨left, reads⟩, ⟨positive, room⟩, rfl⟩
    have code : key.wireType.code < 8 := by cases key.wireType <;> decide
    have inBound : ¬ keyBound ≤ key.tag * 8 + key.wireType.code := by omega
    have low : (key.tag * 8 + key.wireType.code) % 8 = key.wireType.code := by omega
    have high : (key.tag * 8 + key.wireType.code) / 8 = key.tag := by omega
    refine ⟨left, ?_⟩
    simp [readKey, reads, inBound, low, high, WireType.ofCode?_code, Nat.ne_of_gt positive]

theorem accepts_readKey : Accepts readKey IsKey := by
  refine accepts_readVarint.map _ gives_readKey_iff fun bytes key => ?_
  constructor
  · rintro ⟨_, isVarint, isTag, rfl⟩
    exact ⟨isTag, isVarint⟩
  · rintro ⟨isTag, isVarint⟩
    exact ⟨_, isVarint, isTag, rfl⟩

theorem gives_length_iff {content input rest : List UInt8} :
    Gives (readVarint input) content.length (content ++ rest) ↔
      ∃ bytes, input = bytes ++ rest ∧ IsDelimited content bytes := by
  rw [accepts_readVarint]
  constructor
  · rintro ⟨length, rfl, isVarint⟩
    exact ⟨length ++ content, (List.append_assoc _ _ _).symm, length, isVarint, rfl⟩
  · rintro ⟨_, rfl, length, isVarint, rfl⟩
    exact ⟨length, List.append_assoc _ _ _, isVarint⟩

/-! ### Values -/

theorem checkWireType_eq_ok {found expected : WireType} :
    checkWireType found expected = .ok () ↔ found = expected := by
  rw [checkWireType]
  split
  · next same => exact ⟨fun _ => same, fun _ => rfl⟩
  · next different =>
    constructor
    · intro given
      cases given
    · intro same
      exact absurd same different

theorem gives_readNumber_iff (wireType : WireType) (input : List UInt8) (value : Nat)
    (rest : List UInt8) :
    Gives (readNumber wireType input) value rest ↔
      ∃ number, Gives (readVarint input) number rest ∧ wireType = .varint ∧ number = value := by
  constructor
  · rintro ⟨left, given⟩
    rw [readNumber] at given
    split at given
    · cases given
    · next checked =>
      split at given
      · next shorter reads =>
        cases given
        exact ⟨value, ⟨shorter, reads⟩, checkWireType_eq_ok.mp checked, rfl⟩
      · cases given
  · rintro ⟨_, ⟨shorter, reads⟩, rfl, rfl⟩
    exact ⟨shorter.notLonger, by simp [readNumber, checkWireType, reads]⟩

theorem accepts_readNumber (wireType : WireType) :
    Accepts (readNumber wireType) fun bytes number =>
      wireType = .varint ∧ IsVarint bytes number := by
  refine accepts_readVarint.map _ (gives_readNumber_iff wireType) fun bytes number => ?_
  constructor
  · rintro ⟨_, isVarint, rfl, rfl⟩
    exact ⟨rfl, isVarint⟩
  · rintro ⟨rfl, isVarint⟩
    exact ⟨_, isVarint, rfl, rfl⟩

/-- A length, and so many bytes behind it. -/
theorem gives_readBytes_iff {wireType : WireType} {input bytes rest : List UInt8} :
    Gives (readBytes wireType input) bytes rest ↔
      wireType = .lengthDelimited ∧ Gives (readVarint input) bytes.length (bytes ++ rest) := by
  constructor
  · rintro ⟨left, given⟩
    rw [readBytes] at given
    split at given
    · cases given
    · next checked =>
      split at given
      · cases given
      · next length after shorter reads =>
        split at given
        · cases given
        · next enough =>
          cases given
          have whole : (after.take length).length = length :=
            List.length_take_of_le (Nat.not_lt.mp enough)
          refine ⟨checkWireType_eq_ok.mp checked, ?_⟩
          rw [whole, List.take_append_drop]
          exact ⟨shorter, reads⟩
  · rintro ⟨rfl, shorter, reads⟩
    have enough : ¬ (bytes ++ rest).length < bytes.length := by simp
    have notLonger : NotLonger rest (bytes ++ rest) := by simp [NotLonger]
    refine ⟨notLonger.past shorter, ?_⟩
    simp only [readBytes, checkWireType, reads, if_true, if_neg enough, List.take_left,
      List.drop_left]

theorem accepts_readBytes (wireType : WireType) :
    Accepts (readBytes wireType) fun bytes content =>
      wireType = .lengthDelimited ∧ IsDelimited content bytes := by
  intro input content rest
  rw [gives_readBytes_iff, gives_length_iff]
  exact ⟨fun ⟨delimited, bytes, front, said⟩ => ⟨bytes, front, delimited, said⟩,
    fun ⟨bytes, front, delimited, said⟩ => ⟨delimited, bytes, front, said⟩⟩

theorem gives_readString_iff (wireType : WireType) (input : List UInt8) (value : String)
    (rest : List UInt8) :
    Gives (readString wireType input) value rest ↔
      ∃ bytes, Gives (readBytes wireType input) bytes rest ∧
        (Text.Utf8.decode? bytes).map String.ofList = some value := by
  constructor
  · rintro ⟨left, given⟩
    rw [readString] at given
    split at given
    · cases given
    · next bytes after reads =>
      split at given
      · next text decodes =>
        cases given
        exact ⟨bytes, ⟨left, reads⟩, by rw [decodes, Option.map_some]⟩
      · cases given
  · rintro ⟨bytes, ⟨left, reads⟩, decodes⟩
    obtain ⟨text, back, rfl⟩ := Option.map_eq_some_iff.mp decodes
    exact ⟨left, by simp only [readString, reads, back]⟩

theorem accepts_readString (wireType : WireType) :
    Accepts (readString wireType) fun bytes text =>
      wireType = .lengthDelimited ∧ IsDelimited (Text.Utf8.encodeString text) bytes := by
  refine (accepts_readBytes wireType).map _ (gives_readString_iff wireType) fun bytes text => ?_
  constructor
  · rintro ⟨content, ⟨delimited, isDelimited⟩, decodes⟩
    obtain ⟨characters, back, rfl⟩ := Option.map_eq_some_iff.mp decodes
    have encoded : Text.Utf8.encodeString (String.ofList characters) = content := by
      rw [Text.Utf8.encodeString, String.toList_ofList]
      exact Text.Utf8.encode_of_decode? back
    exact ⟨delimited, encoded.symm ▸ isDelimited⟩
  · rintro ⟨delimited, isDelimited⟩
    have decodes : Text.Utf8.decode? (Text.Utf8.encodeString text) = some text.toList :=
      Text.Utf8.decode?_encode text.toList
    exact ⟨_, ⟨delimited, isDelimited⟩, by rw [decodes, Option.map_some, String.ofList_toList]⟩

/-! ### Fields that are not known -/

/-- A field on the wire: its key and the bytes of its value. -/
structure RawField where
  key : Key
  keyBytes : List UInt8
  value : List UInt8
  isKey : IsKey keyBytes key

def RawField.bytes (field : RawField) : List UInt8 :=
  field.keyBytes ++ field.value

def fieldBytes (fields : List RawField) : List UInt8 :=
  fields.flatMap RawField.bytes

theorem fieldBytes_cons (field : RawField) (fields : List RawField) :
    fieldBytes (field :: fields) = field.bytes ++ fieldBytes fields :=
  List.flatMap_cons

/-- The bytes are a value of a field with the key, whatever the field means. Groups nest in it less
than `depth` deep. -/
inductive WellFormed : (depth : Nat) → Key → List UInt8 → Prop where
  | varint {depth tag value : Nat} {bytes : List UInt8} (isVarint : IsVarint bytes value) :
      WellFormed (depth + 1) ⟨tag, .varint⟩ bytes
  | sixtyFourBit {depth tag : Nat} {bytes : List UInt8} (size : bytes.length = 8) :
      WellFormed (depth + 1) ⟨tag, .sixtyFourBit⟩ bytes
  | lengthDelimited {depth tag : Nat} {content bytes : List UInt8}
      (isDelimited : IsDelimited content bytes) :
      WellFormed (depth + 1) ⟨tag, .lengthDelimited⟩ bytes
  | group {depth tag : Nat} {fields : List RawField} {ending : List UInt8}
      (inner : ∀ field ∈ fields, WellFormed depth field.key field.value)
      (isEnd : IsKey ending ⟨tag, .endGroup⟩) :
      WellFormed (depth + 1) ⟨tag, .startGroup⟩ (fieldBytes fields ++ ending)
  | thirtyTwoBit {depth tag : Nat} {bytes : List UInt8} (size : bytes.length = 4) :
      WellFormed (depth + 1) ⟨tag, .thirtyTwoBit⟩ bytes

theorem WellFormed.ne_endGroup {depth : Nat} {key : Key} {bytes : List UInt8}
    (wellFormed : WellFormed depth key bytes) : key.wireType ≠ .endGroup := by
  cases wellFormed <;> nofun

theorem gives_skipBytes_iff {count : Nat} {input rest : List UInt8} :
    Gives (skipBytes count input) () rest ↔
      ∃ bytes, bytes.length = count ∧ input = bytes ++ rest := by
  constructor
  · rintro ⟨left, given⟩
    rw [skipBytes] at given
    split at given
    · cases given
    · next enough =>
      cases given
      exact ⟨input.take count, List.length_take_of_le (Nat.not_lt.mp enough),
        (List.take_append_drop count input).symm⟩
  · rintro ⟨bytes, rfl, rfl⟩
    have enough : ¬ (bytes ++ rest).length < bytes.length := by simp
    refine ⟨by simp [NotLonger], ?_⟩
    simp only [skipBytes, if_neg enough, List.drop_left]

theorem accepts_skipBytes (count : Nat) :
    Accepts (skipBytes count) fun bytes _ => bytes.length = count := by
  intro input _ rest
  rw [gives_skipBytes_iff]
  exact exists_congr fun bytes => and_comm

section Groups

variable {skip : (key : Key) → (input : List UInt8) → Reading Unit input}

/-- A group goes on to the key that ends it. -/
theorem gives_skipGroup_iff {tag : Nat} {input last : List UInt8} :
    Gives (skipGroup skip tag input) () last ↔
      ∃ key rest, Gives (readKey input) key rest ∧
        (key = ⟨tag, .endGroup⟩ ∧ rest = last ∨
          key.wireType ≠ .endGroup ∧ ∃ after, Gives (skip key rest) () after ∧
            Gives (skipGroup skip tag after) () last) := by
  constructor
  · rintro ⟨left, given⟩
    rw [skipGroup] at given
    split at given
    · cases given
    · next key rest shorter readsKey =>
      refine ⟨key, rest, ⟨shorter, readsKey⟩, ?_⟩
      split at given
      · next isEnd =>
        split at given
        · next same =>
          cases given
          obtain ⟨keyTag, wireType⟩ := key
          cases isEnd
          cases same
          exact .inl ⟨rfl, rfl⟩
        · cases given
      · next notEnd =>
        refine .inr ⟨notEnd, ?_⟩
        split at given
        · cases given
        · next after notLonger skips =>
          split at given
          · cases given
          · next bound others =>
            cases given
            exact ⟨after, ⟨notLonger, skips⟩, ⟨bound, others⟩⟩
  · rintro ⟨key, rest, ⟨shorter, readsKey⟩, ⟨rfl, rfl⟩ | ⟨notEnd, after, skips, others⟩⟩
    · refine ⟨shorter.notLonger, ?_⟩
      rw [skipGroup]
      simp only [readsKey, if_true]
    · obtain ⟨notLonger, skips⟩ := skips
      obtain ⟨bound, others⟩ := others
      refine ⟨bound.trans (notLonger.past shorter), ?_⟩
      rw [skipGroup]
      simp only [readsKey, if_neg notEnd, skips, others]

variable {Skips : Key → List UInt8 → Prop}
  (accepts : ∀ key, Accepts (skip key) fun bytes _ => Skips key bytes)
include accepts

theorem readsAs_skipGroup (notEnd : ∀ key bytes, Skips key bytes → key.wireType ≠ .endGroup)
    {fields : List RawField} (inner : ∀ field ∈ fields, Skips field.key field.value) {tag : Nat}
    {ending : List UInt8} (isEnd : IsKey ending ⟨tag, .endGroup⟩) :
    ReadsAs (skipGroup skip tag) (fieldBytes fields ++ ending) () := by
  intro after
  induction fields with
  | nil =>
    exact gives_skipGroup_iff.mpr ⟨_, _, accepts_readKey.reads isEnd after, .inl ⟨rfl, rfl⟩⟩
  | cons field rest ih =>
    obtain ⟨skips, inner⟩ := List.forall_mem_cons.mp inner
    have others := ih inner
    rw [List.append_assoc] at others
    rw [fieldBytes_cons, RawField.bytes, List.append_assoc, List.append_assoc, List.append_assoc]
    exact gives_skipGroup_iff.mpr
      ⟨field.key, _, accepts_readKey.reads field.isKey _,
        .inr ⟨notEnd _ _ skips, _, (accepts field.key).reads skips _, others⟩⟩

theorem exists_fields_of_skipGroup {tag : Nat} {input rest : List UInt8}
    (gives : Gives (skipGroup skip tag input) () rest) :
    ∃ (fields : List RawField) (ending : List UInt8),
      input = fieldBytes fields ++ ending ++ rest ∧
        (∀ field ∈ fields, Skips field.key field.value) ∧ IsKey ending ⟨tag, .endGroup⟩ := by
  induction whole : input.length using Nat.strongRecOn generalizing input with
  | ind size ih =>
    obtain ⟨key, start, readsKey, ⟨rfl, rfl⟩ | ⟨notEnd, after, skips, others⟩⟩ :=
      gives_skipGroup_iff.mp gives
    · obtain ⟨ending, rfl, isEnd⟩ := (accepts_readKey _ _ _).mp readsKey
      exact ⟨[], ending, rfl, nofun, isEnd⟩
    · have smaller : after.length < size := whole ▸ skips.1.trans_shorter readsKey.1
      obtain ⟨fields, ending, rfl, inner, isEnd⟩ := ih _ smaller others rfl
      obtain ⟨value, rfl, skipsValue⟩ := (accepts key _ _ _).mp skips
      obtain ⟨keyBytes, rfl, isKey⟩ := (accepts_readKey _ _ _).mp readsKey
      refine ⟨⟨key, keyBytes, value, isKey⟩ :: fields, ending, ?_,
        List.forall_mem_cons.mpr ⟨skipsValue, inner⟩, isEnd⟩
      simp only [fieldBytes_cons, RawField.bytes, List.append_assoc]

theorem accepts_skipGroup (notEnd : ∀ key bytes, Skips key bytes → key.wireType ≠ .endGroup)
    (tag : Nat) :
    Accepts (skipGroup skip tag) fun bytes _ =>
      ∃ (fields : List RawField) (ending : List UInt8), bytes = fieldBytes fields ++ ending ∧
        (∀ field ∈ fields, Skips field.key field.value) ∧ IsKey ending ⟨tag, .endGroup⟩ := by
  intro input _ rest
  constructor
  · intro gives
    obtain ⟨fields, ending, front, said⟩ := exists_fields_of_skipGroup accepts gives
    exact ⟨_, front, fields, ending, rfl, said⟩
  · rintro ⟨_, rfl, fields, ending, rfl, inner, isEnd⟩
    exact readsAs_skipGroup accepts notEnd inner isEnd rest

end Groups

section Skipped

variable {depth tag : Nat} {input rest : List UInt8}

theorem gives_skipVarint_iff :
    Gives (skipField (depth + 1) ⟨tag, .varint⟩ input) () rest ↔
      ∃ number, Gives (readVarint input) number rest := by
  constructor
  · rintro ⟨left, given⟩
    simp only [skipField] at given
    split at given
    · next number after shorter reads =>
      cases given
      exact ⟨number, shorter, reads⟩
    · cases given
  · rintro ⟨number, shorter, reads⟩
    exact ⟨shorter.notLonger, by simp only [skipField, reads]⟩

theorem gives_skipDelimited_iff :
    Gives (skipField (depth + 1) ⟨tag, .lengthDelimited⟩ input) () rest ↔
      ∃ bytes : List UInt8, Gives (readVarint input) bytes.length (bytes ++ rest) := by
  constructor
  · rintro ⟨left, given⟩
    simp only [skipField] at given
    split at given
    · cases given
    · next length after shorter reads =>
      split at given
      · next notLonger skips =>
        cases given
        obtain ⟨bytes, rfl, rfl⟩ := gives_skipBytes_iff.mp ⟨notLonger, skips⟩
        exact ⟨bytes, shorter, reads⟩
      · cases given
  · rintro ⟨bytes, shorter, reads⟩
    obtain ⟨notLonger, skips⟩ := gives_skipBytes_iff.mpr ⟨bytes, rfl, rfl⟩
    exact ⟨notLonger.past shorter, by simp only [skipField, reads, skips]⟩

end Skipped

/-- Unknown fields are skipped if they are well-formed, and only then. -/
theorem accepts_skipField (depth : Nat) (key : Key) :
    Accepts (skipField depth key) fun bytes _ => WellFormed depth key bytes := by
  induction depth generalizing key with
  | zero =>
    intro input _ rest
    constructor
    · rintro ⟨_, ⟨⟩⟩
    · rintro ⟨_, _, ⟨⟩⟩
  | succ depth ih =>
    obtain ⟨tag, wireType⟩ := key
    cases wireType with
    | varint =>
      refine accepts_readVarint.map (fun _ _ => True) (fun input _ rest => ?_) fun bytes _ => ?_
      · simp only [and_true]
        exact gives_skipVarint_iff
      · constructor
        · rintro ⟨number, isVarint, -⟩
          exact .varint isVarint
        · intro wellFormed
          cases wellFormed with
          | varint isVarint => exact ⟨_, isVarint, trivial⟩
    | sixtyFourBit =>
      refine (accepts_skipBytes 8).congr fun bytes _ => ⟨.sixtyFourBit, fun wellFormed => ?_⟩
      cases wellFormed with
      | sixtyFourBit size => exact size
    | lengthDelimited =>
      intro input _ rest
      rw [gives_skipDelimited_iff]
      simp only [gives_length_iff]
      constructor
      · rintro ⟨content, bytes, front, isDelimited⟩
        exact ⟨bytes, front, .lengthDelimited isDelimited⟩
      · rintro ⟨bytes, front, wellFormed⟩
        cases wellFormed with
        | lengthDelimited isDelimited => exact ⟨_, bytes, front, isDelimited⟩
    | startGroup =>
      refine (accepts_skipGroup ih (fun _ _ => WellFormed.ne_endGroup) tag).congr fun bytes _ => ?_
      constructor
      · rintro ⟨fields, ending, rfl, inner, isEnd⟩
        exact .group inner isEnd
      · intro wellFormed
        cases wellFormed with
        | group inner isEnd => exact ⟨_, _, rfl, inner, isEnd⟩
    | endGroup =>
      intro input _ rest
      constructor
      · rintro ⟨_, ⟨⟩⟩
      · rintro ⟨_, _, ⟨⟩⟩
    | thirtyTwoBit =>
      refine (accepts_skipBytes 4).congr fun bytes _ => ⟨.thirtyTwoBit, fun wellFormed => ?_⟩
      cases wellFormed with
      | thirtyTwoBit size => exact size

end ScanMerge.Wire
