import ScanMerge.Proofs.WireGrammar

/-!
Messages and frames on the wire. A message is its length and then a run of fields, so what is known
of the fields of a message type carries over to its messages: a message that was read once is read
in the same way before anything else, and one that ends too early is not read at all.
-/

set_option autoImplicit false

namespace ScanMerge.Wire

variable {α : Type} {field : FieldReader α}

/-- Fields that are read up to a limit are a run of fields. -/
theorem run_of_readFields (alone : ∀ message key, StandsAlone (field message key)) {limit : Nat}
    {message last : α} {input rest : List UInt8}
    (gives : Gives (readFields field limit message input) last rest) :
    ∃ bytes, input = bytes ++ rest ∧ rest.length = limit ∧ Run field bytes message last := by
  induction whole : input.length using Nat.strongRecOn generalizing input message with
  | ind size ih =>
    obtain ⟨left, given⟩ := gives
    rw [readFields] at given
    split at given
    · split at given
      · cases given
      · next key start shorter readsKey =>
        split at given
        · cases given
        · next next after notLonger readsField =>
          split at given
          · cases given
          · next bound others =>
            cases given
            have smaller : after.length < size := whole ▸ notLonger.trans_shorter shorter
            obtain ⟨more, rfl, atLimit, run⟩ := ih _ smaller ⟨bound, others⟩ rfl
            obtain ⟨value, rfl, readsValue⟩ := alone message key _ _ _ ⟨notLonger, readsField⟩
            obtain ⟨bytes, rfl, isKey⟩ := (accepts_readKey _ _ _).mp ⟨shorter, readsKey⟩
            have takes : Takes field (bytes ++ value) message next := by
              intro after
              rw [List.append_assoc]
              exact ⟨key, value ++ after, accepts_readKey.reads isKey _, readsValue after⟩
            exact ⟨bytes ++ value ++ more, by simp only [List.append_assoc], atLimit,
              .next takes run⟩
    · split at given
      · next atLimit =>
        cases given
        exact ⟨[], rfl, atLimit, .done _⟩
      · cases given

/-- A run of fields behind its length is read as a message. -/
theorem Run.gives_message {bytes : List UInt8} {message last : α}
    (run : Run field bytes message last) {input rest : List UInt8}
    (length : Gives (readVarint input) bytes.length (bytes ++ rest)) :
    Gives (readMessage field message input) last rest := by
  obtain ⟨shorter, readsLength⟩ := length
  obtain ⟨notLonger, readsFields⟩ := run.gives_readFields rest
  have enough : ¬ (bytes ++ rest).length < bytes.length := by simp
  have limit : (bytes ++ rest).length - bytes.length = rest.length := by simp
  refine ⟨notLonger.trans_shorter shorter, ?_⟩
  simp only [readMessage, readsLength, if_neg enough, limit, readsFields]

/-- A length, and so many bytes behind it that are a run of fields. -/
theorem gives_readMessage_iff (alone : ∀ message key, StandsAlone (field message key))
    {message last : α} {input rest : List UInt8} :
    Gives (readMessage field message input) last rest ↔
      ∃ bytes, Gives (readVarint input) bytes.length (bytes ++ rest) ∧
        Run field bytes message last := by
  constructor
  · rintro ⟨left, given⟩
    rw [readMessage] at given
    split at given
    · cases given
    · next length start shorter readsLength =>
      split at given
      · cases given
      · next enough =>
        split at given
        · cases given
        · next notLonger readsFields =>
          cases given
          obtain ⟨bytes, rfl, atLimit, run⟩ := run_of_readFields alone ⟨notLonger, readsFields⟩
          rw [List.length_append] at enough atLimit
          obtain rfl : length = bytes.length := by omega
          exact ⟨bytes, ⟨shorter, readsLength⟩, run⟩
  · rintro ⟨bytes, length, run⟩
    exact run.gives_message length

theorem standsAlone_readMessage (alone : ∀ message key, StandsAlone (field message key))
    (message : α) : StandsAlone (readMessage field message) := by
  intro input last rest gives
  obtain ⟨bytes, gives, run⟩ := (gives_readMessage_iff alone).mp gives
  obtain ⟨length, rfl, reads⟩ := accepts_readVarint.standsAlone _ _ _ gives
  refine ⟨length ++ bytes, (List.append_assoc _ _ _).symm, fun after => ?_⟩
  rw [List.append_assoc]
  exact (gives_readMessage_iff alone).mpr ⟨bytes, reads (bytes ++ after), run⟩

theorem gives_readSubmessage_iff (message : α) (wireType : WireType) (input : List UInt8)
    (last : α) (rest : List UInt8) :
    Gives (readSubmessage field message wireType input) last rest ↔
      ∃ value, Gives (readMessage field message input) value rest ∧
        wireType = .lengthDelimited ∧ value = last := by
  constructor
  · rintro ⟨left, given⟩
    rw [readSubmessage] at given
    split at given
    · cases given
    · next checked =>
      split at given
      · next shorter reads =>
        cases given
        exact ⟨last, ⟨shorter, reads⟩, checkWireType_eq_ok.mp checked, rfl⟩
      · cases given
  · rintro ⟨_, ⟨shorter, reads⟩, rfl, rfl⟩
    exact ⟨shorter.notLonger, by simp [readSubmessage, checkWireType, reads]⟩

/-- Every field and every message of a type stands alone, whatever it is merged into. -/
structure MessagesStandAlone (field : FieldReader α) : Prop where
  fields : ∀ message key, StandsAlone (field message key)
  messages : ∀ message, StandsAlone (readMessage field message)

theorem MessagesStandAlone.of_fields (alone : ∀ message key, StandsAlone (field message key)) :
    MessagesStandAlone field :=
  ⟨alone, standsAlone_readMessage alone⟩

/-- The bytes are one frame, which holds the message: its length and then its fields. -/
def IsFrame (field : FieldReader α) (start : α) (bytes : List UInt8) (message : α) : Prop :=
  Gives (readMessage field start bytes) message []

/-- What is written is a frame. -/
theorem Writes.isFrame {bytes : List UInt8} {start message : α}
    (written : Writes field bytes start message) (fits : Fits bytes) :
    IsFrame field start (delimited bytes) message := by
  have gives := (written fits).gives_readMessage fits []
  rwa [List.append_nil] at gives

variable {start message : α} {frame : List UInt8}

theorem MessagesStandAlone.gives (alone : MessagesStandAlone field)
    (isFrame : IsFrame field start frame message) (rest : List UInt8) :
    Gives (readMessage field start (frame ++ rest)) message rest :=
  (alone.messages start).reading isFrame rest

/-- What is read as a message is a frame. -/
theorem MessagesStandAlone.exists_frame (alone : MessagesStandAlone field) {input rest : List UInt8}
    (gives : Gives (readMessage field start input) message rest) :
    ∃ frame, input = frame ++ rest ∧ IsFrame field start frame message := by
  obtain ⟨frame, rfl, reads⟩ := alone.messages start input message rest gives
  have isFrame := reads []
  rw [List.append_nil] at isFrame
  exact ⟨frame, rfl, isFrame⟩

/-- No frame is empty. -/
theorem IsFrame.ne_nil (isFrame : IsFrame field start frame message) : frame ≠ [] :=
  List.ne_nil_of_length_pos (Nat.zero_lt_of_lt isFrame.1)

end ScanMerge.Wire
