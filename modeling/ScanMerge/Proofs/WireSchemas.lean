import ScanMerge.Proofs.RecordSchemas
import ScanMerge.Proofs.WireFrames

/-!
Messages on the wire as a schema declares them. The fields of a message may stand in any order. Of
two fields with one tag the later one counts, unless the field is repeated. Fields with tags that
the schema does not declare may stand anywhere between the others, and say nothing. A message type
that is read field by field, each declared one into its own place, accepts the messages that its
schema allows, and no others.
-/

set_option autoImplicit false

namespace ScanMerge.Wire

/-! ### Messages -/

/-- The item of a message that a field is: its tag, and its value with the wire type. -/
def RawField.item (field : RawField) : Nat × WireType × List UInt8 :=
  (field.key.tag, field.key.wireType, field.value)

/-- A field that is not declared is well-formed, groups in it nesting less than `depth` deep. -/
def IsSkipped (depth tag : Nat) (source : WireType × List UInt8) : Prop :=
  WellFormed depth ⟨tag, source.1⟩ source.2

/-- What a message type declares, field by field. Values of other fields are well-formed. -/
abbrev MessageSchema (α : Type) : Type 1 :=
  Schema Nat (WireType × List UInt8) α

section Spelled

variable {α : Type}

/-- The bytes are a length and fields that take one message to another. -/
def SpellsFrame (schema : MessageSchema α) (message : α) (bytes : List UInt8) (last : α) : Prop :=
  ∃ fields : List RawField, IsDelimited (fieldBytes fields) bytes ∧
    schema.Spells (fields.map RawField.item) message last

/-- The values of the declared field are read into its place, and nothing else is read of it. -/
def ReadsDeclared (reader : FieldReader α) (declared : Declaration Nat (WireType × List UInt8) α) :
    Prop :=
  ∀ message wireType, Accepts (reader message ⟨declared.name, wireType⟩) fun bytes next =>
    ∃ value, declared.Takes (declared.get message) (wireType, bytes) value ∧
      declared.put message value = next

/-- Each declared field is read into its place, and every other field is skipped. -/
structure ReadBy (schema : MessageSchema α) (reader : FieldReader α) : Prop where
  declared : ∀ declared ∈ schema.declarations, ReadsDeclared reader declared
  others : ∀ tag, (∀ declared ∈ schema.declarations, tag ≠ declared.name) →
    ∀ message wireType, Accepts (reader message ⟨tag, wireType⟩) fun bytes next =>
      schema.Ignores tag (wireType, bytes) ∧ message = next

variable {schema : MessageSchema α} {reader : FieldReader α}

theorem ReadBy.accepts (readBy : ReadBy schema reader) (message : α) (key : Key) :
    Accepts (reader message key) fun bytes next =>
      schema.Takes message key.tag (key.wireType, bytes) next := by
  obtain ⟨tag, wireType⟩ := key
  by_cases known : ∃ declared ∈ schema.declarations, tag = declared.name
  · obtain ⟨declared, mem, rfl⟩ := known
    exact (readBy.declared declared mem message wireType).congr fun _ _ =>
      (Schema.takes_declared_iff mem).symm
  · have apart : ∀ declared ∈ schema.declarations, tag ≠ declared.name :=
      fun declared mem same => known ⟨declared, mem, same⟩
    exact (readBy.others tag apart message wireType).congr fun _ _ =>
      (Schema.takes_other_iff apart).symm

/-- Fields are read as the schema declares them, in whatever order they stand. -/
theorem ReadBy.run_iff (readBy : ReadBy schema reader) {bytes : List UInt8} {message last : α} :
    Run reader bytes message last ↔
      ∃ fields : List RawField, fieldBytes fields = bytes ∧
        schema.Spells (fields.map RawField.item) message last := by
  constructor
  · intro run
    induction run with
    | done message => exact ⟨[], rfl, .nil message⟩
    | next takes _ ih =>
      obtain ⟨fields, rfl, others⟩ := ih
      obtain ⟨key, rest, readsKey, readsField⟩ := takes []
      rw [List.append_nil] at readsKey
      obtain ⟨keyBytes, rfl, isKey⟩ := (accepts_readKey _ _ _).mp readsKey
      have first := (readBy.accepts _ key).gives_nil_iff.mp readsField
      exact ⟨⟨key, keyBytes, rest, isKey⟩ :: fields, fieldBytes_cons _ fields, first.spells others⟩
  · rintro ⟨fields, rfl, spells⟩
    induction fields generalizing message with
    | nil =>
      rw [spells.eq]
      exact .done last
    | cons field rest ih =>
      obtain ⟨next, takes, others⟩ := Schema.Spells.first spells
      have first : Takes reader field.bytes message next := by
        intro after
        rw [RawField.bytes, List.append_assoc]
        exact ⟨field.key, _, accepts_readKey.reads field.isKey _,
          (readBy.accepts message field.key).reads takes after⟩
      rw [fieldBytes_cons]
      exact .next first (ih others)

/-- A message is read from the frames that spell it, and from no others. -/
theorem ReadBy.accepts_readMessage (readBy : ReadBy schema reader) (message : α) :
    Accepts (readMessage reader message) (SpellsFrame schema message) := by
  intro input last rest
  rw [gives_readMessage_iff fun message key => (readBy.accepts message key).standsAlone]
  simp only [gives_length_iff, readBy.run_iff]
  constructor
  · rintro ⟨_, ⟨bytes, front, isDelimited⟩, fields, rfl, spells⟩
    exact ⟨bytes, front, fields, isDelimited, spells⟩
  · rintro ⟨bytes, front, fields, isDelimited, spells⟩
    exact ⟨_, ⟨bytes, front, isDelimited⟩, fields, rfl, spells⟩

theorem ReadBy.standAlone (readBy : ReadBy schema reader) : MessagesStandAlone reader :=
  .of_fields fun message key => (readBy.accepts message key).standsAlone

theorem ReadBy.isFrame_iff (readBy : ReadBy schema reader) {bytes : List UInt8}
    {message last : α} :
    IsFrame reader message bytes last ↔ SpellsFrame schema message bytes last :=
  (readBy.accepts_readMessage message).gives_nil_iff

end Spelled

/-! ### Kinds of declared fields -/

section Kinds

variable {α β : Type} (tag : Nat)

/-- Strings. -/
def textField (get : α → String) (put : α → String → α) :
    Declaration Nat (WireType × List UInt8) α where
  name := tag
  Value := String
  get
  put
  Takes _ source value :=
    source.1 = .lengthDelimited ∧ IsDelimited (Text.Utf8.encodeString value) source.2

def numberField (Means : Nat → β → Prop) (get : α → β) (put : α → β → α) :
    Declaration Nat (WireType × List UInt8) α where
  name := tag
  Value := β
  get
  put
  Takes _ source value :=
    source.1 = .varint ∧ ∃ number, IsVarint source.2 number ∧ Means number value

/-- Messages, of which there is one at most. A second one is merged into the first one. -/
def submessage (schema : MessageSchema β) (get : α → Option β) (put : α → Option β → α) :
    Declaration Nat (WireType × List UInt8) α where
  name := tag
  Value := Option β
  get
  put
  Takes before source after :=
    source.1 = .lengthDelimited ∧
      ∃ value, SpellsFrame schema (before.getD schema.start) source.2 value ∧ after = some value

def submessages (schema : MessageSchema β) (get : α → List β) (put : α → List β → α) :
    Declaration Nat (WireType × List UInt8) α where
  name := tag
  Value := List β
  get
  put
  Takes before source after :=
    source.1 = .lengthDelimited ∧
      ∃ value, SpellsFrame schema schema.start source.2 value ∧ after = before ++ [value]

section Readers

variable {tag} {field : FieldReader α} (name : String)

theorem readsDeclared_text {get : α → String} {put : α → String → α}
    (reads : ∀ message wireType input, field message ⟨tag, wireType⟩ input =
      ((readString wireType input).inField name).store (put message)) :
    ReadsDeclared field (textField tag get put) := by
  intro message wireType
  exact (((accepts_readString wireType).inField name).store (put message)).of_eq
    (reads message wireType)

theorem readsDeclared_number {Means : Nat → β → Prop} {read : Nat → β}
    (means_iff : ∀ number value, Means number value ↔ read number = value) {get : α → β}
    {put : α → β → α}
    (reads : ∀ message wireType input, field message ⟨tag, wireType⟩ input =
      ((readNumber wireType input).inField name).store fun number => put message (read number)) :
    ReadsDeclared field (numberField tag Means get put) := by
  intro message wireType
  have accepts := ((accepts_readNumber wireType).inField name).store fun number =>
    put message (read number)
  refine (accepts.congr fun bytes next => ?_).of_eq (reads message wireType)
  constructor
  · rintro ⟨number, ⟨delimited, isVarint⟩, rfl⟩
    exact ⟨read number, ⟨delimited, number, isVarint, (means_iff number _).mpr rfl⟩, rfl⟩
  · rintro ⟨value, ⟨delimited, number, isVarint, means⟩, rfl⟩
    exact ⟨number, ⟨delimited, isVarint⟩,
      congrArg (put message) ((means_iff number value).mp means)⟩

variable {schema : MessageSchema β} {reader : FieldReader β}

/-- A message inside another one is read as its own fields say. -/
theorem accepts_readSubmessage (readBy : ReadBy schema reader) (start : β) (wireType : WireType) :
    Accepts (readSubmessage reader start wireType) fun bytes value =>
      wireType = .lengthDelimited ∧ SpellsFrame schema start bytes value := by
  refine (readBy.accepts_readMessage start).map _ (gives_readSubmessage_iff start wireType)
    fun bytes value => ?_
  constructor
  · rintro ⟨_, spells, delimited, rfl⟩
    exact ⟨delimited, spells⟩
  · rintro ⟨delimited, spells⟩
    exact ⟨value, spells, delimited, rfl⟩

theorem readsDeclared_submessage (readBy : ReadBy schema reader) {get : α → Option β}
    {put : α → Option β → α}
    (reads : ∀ message wireType input, field message ⟨tag, wireType⟩ input =
      ((readSubmessage reader ((get message).getD schema.start) wireType input).inField name).store
        fun value => put message (some value)) :
    ReadsDeclared field (submessage tag schema get put) := by
  intro message wireType
  have accepts := ((accepts_readSubmessage readBy ((get message).getD schema.start)
    wireType).inField name).store fun value => put message (some value)
  refine (accepts.congr fun bytes next => ?_).of_eq (reads message wireType)
  constructor
  · rintro ⟨value, ⟨delimited, spells⟩, rfl⟩
    exact ⟨some value, ⟨delimited, value, spells, rfl⟩, rfl⟩
  · rintro ⟨_, ⟨delimited, value, spells, rfl⟩, rfl⟩
    exact ⟨value, ⟨delimited, spells⟩, rfl⟩

theorem readsDeclared_submessages (readBy : ReadBy schema reader) {get : α → List β}
    {put : α → List β → α}
    (reads : ∀ message wireType input, field message ⟨tag, wireType⟩ input =
      ((readSubmessage reader schema.start wireType input).inField name).store
        fun value => put message (get message ++ [value])) :
    ReadsDeclared field (submessages tag schema get put) := by
  intro message wireType
  have accepts := ((accepts_readSubmessage readBy schema.start wireType).inField name).store
    fun value => put message (get message ++ [value])
  refine (accepts.congr fun bytes next => ?_).of_eq (reads message wireType)
  constructor
  · rintro ⟨value, ⟨delimited, spells⟩, rfl⟩
    exact ⟨get message ++ [value], ⟨delimited, value, spells, rfl⟩, rfl⟩
  · rintro ⟨_, ⟨delimited, value, spells, rfl⟩, rfl⟩
    exact ⟨value, ⟨delimited, spells⟩, rfl⟩

/-- A field that is not known leaves the message as it is. -/
theorem accepts_unknown (message : α) (wireType : WireType) (depth tag : Nat) :
    Accepts (fun input => (skipField depth ⟨tag, wireType⟩ input).store fun () => message)
      fun bytes next => IsSkipped depth tag (wireType, bytes) ∧ message = next :=
  ((accepts_skipField depth ⟨tag, wireType⟩).store _).congr fun _ _ => exists_const Unit

end Readers

end Kinds

end ScanMerge.Wire
