import ScanMerge.Proofs.Utf8
import ScanMerge.Text.Encoding
import Mathlib.Data.List.GetD
import Mathlib.Data.List.Nodup

/-!
Texts and their bytes. In the three encodings of Unicode a byte string decodes to a text exactly
when it is what encoding the text gives, apart from one byte order mark of the encoding in front. In
windows-1252 every byte string decodes, each byte to a character of its own.
-/

set_option autoImplicit false

namespace ScanMerge.Text

/-! ### 16-bit units -/

/-- The units of a character. One past the first plane is a pair of surrogates. -/
def unitsOfChar (c : Char) : List Nat :=
  if c.toNat < 0x10000 then [c.toNat]
  else [0xD800 + (c.toNat - 0x10000) / 0x400, 0xDC00 + (c.toNat - 0x10000) % 0x400]

def unitsOf (text : List Char) : List Nat :=
  text.flatMap unitsOfChar

namespace Encoding

theorem isHighSurrogate_iff {unit : Nat} :
    isHighSurrogate unit = true ↔ 0xD800 ≤ unit ∧ unit < 0xDC00 := by
  rw [isHighSurrogate, Bool.and_eq_true, decide_eq_true_eq, decide_eq_true_eq]

theorem isLowSurrogate_iff {unit : Nat} :
    isLowSurrogate unit = true ↔ 0xDC00 ≤ unit ∧ unit < 0xE000 := by
  rw [isLowSurrogate, Bool.and_eq_true, decide_eq_true_eq, decide_eq_true_eq]

theorem unit_lt_of_mem_unitsOf {text : List Char} : ∀ unit ∈ unitsOf text, unit < 0x10000 := by
  intro unit mem
  obtain ⟨c, -, mem⟩ := List.mem_flatMap.mp mem
  have valid : c.toNat < 0xD800 ∨ 0xDFFF < c.toNat ∧ c.toNat < 0x110000 := c.valid
  rw [unitsOfChar] at mem
  split at mem
  · next single => exact List.eq_of_mem_singleton mem ▸ single
  · simp only [List.mem_cons, List.not_mem_nil, or_false] at mem
    omega

/-- The units of a character in front of others are read as the character. -/
theorem ofUnits?_unitsOfChar_append (c : Char) (rest : List Nat) :
    ofUnits? (unitsOfChar c ++ rest) = (ofUnits? rest).map (c :: ·) := by
  have valid : c.toNat < 0xD800 ∨ 0xDFFF < c.toNat ∧ c.toNat < 0x110000 := c.valid
  rw [unitsOfChar]
  split
  · next single =>
    have notHigh : ¬ isHighSurrogate c.toNat = true := by rw [isHighSurrogate_iff]; omega
    have notLow : ¬ isLowSurrogate c.toNat = true := by rw [isLowSurrogate_iff]; omega
    rw [List.singleton_append, ofUnits?.eq_def]
    dsimp only
    rw [if_neg notHigh, if_neg notLow, Char.ofNat_toNat]
  · next beyond =>
    have high : isHighSurrogate (0xD800 + (c.toNat - 0x10000) / 0x400) = true := by
      rw [isHighSurrogate_iff]; omega
    have low : isLowSurrogate (0xDC00 + (c.toNat - 0x10000) % 0x400) = true := by
      rw [isLowSurrogate_iff]; omega
    have whole : 0x10000 + (0xD800 + (c.toNat - 0x10000) / 0x400 - 0xD800) * 0x400 +
        (0xDC00 + (c.toNat - 0x10000) % 0x400 - 0xDC00) = c.toNat := by omega
    simp only [List.cons_append, List.nil_append, ofUnits?, high, low, if_true, whole,
      Char.ofNat_toNat]

theorem ofUnits?_unitsOf (text : List Char) : ofUnits? (unitsOf text) = some text := by
  induction text with
  | nil => rfl
  | cons c rest ih =>
    rw [unitsOf, List.flatMap_cons, ofUnits?_unitsOfChar_append, ← unitsOf, ih, Option.map_some]

/-- The units of which a text is read are the units of that text. -/
theorem unitsOf_of_ofUnits? {units : List Nat} {text : List Char}
    (small : ∀ unit ∈ units, unit < 0x10000) (read : ofUnits? units = some text) :
    unitsOf text = units := by
  fun_induction ofUnits? units generalizing text with
  | case1 => cases read; rfl
  | case2 => cases read
  | case3 a high b rest low ih =>
    -- A pair of surrogates: the two halves are the quotient and the remainder of its character.
    obtain ⟨others, readOthers, rfl⟩ := Option.map_eq_some_iff.mp read
    rw [List.forall_mem_cons, List.forall_mem_cons] at small
    rw [isHighSurrogate_iff] at high
    rw [isLowSurrogate_iff] at low
    have upper : 0xD800 + (0x10000 + (a - 0xD800) * 0x400 + (b - 0xDC00) - 0x10000) / 0x400 = a :=
      by omega
    have lower : 0xDC00 + (0x10000 + (a - 0xD800) * 0x400 + (b - 0xDC00) - 0x10000) % 0x400 = b :=
      by omega
    rw [unitsOf, List.flatMap_cons, ← unitsOf, ih small.2.2 readOthers, unitsOfChar,
      Utf8.toNat_charOfNat (by omega), if_neg (by omega), upper, lower]
    rfl
  | case4 => cases read
  | case5 => cases read
  | case6 a rest notHigh notLow ih =>
    -- A unit of its own, which is a character only because the unit is small.
    obtain ⟨others, readOthers, rfl⟩ := Option.map_eq_some_iff.mp read
    rw [List.forall_mem_cons] at small
    rw [isHighSurrogate_iff] at notHigh
    rw [isLowSurrogate_iff] at notLow
    rw [unitsOf, List.flatMap_cons, ← unitsOf, ih small.2 readOthers, unitsOfChar,
      Utf8.toNat_charOfNat (by omega), if_pos small.1]
    rfl

/-! ### Byte orders -/

/-- A way to write a unit with two bytes. -/
structure ByteOrder where
  /-- The unit that two bytes make. -/
  unit : UInt8 → UInt8 → Nat
  /-- The bytes of a unit. -/
  bytes : Nat → List UInt8
  unit_lt (a b : UInt8) : unit a b < 0x10000
  bytes_unit (a b : UInt8) : bytes (unit a b) = [a, b]
  exists_bytes {value : Nat} (small : value < 0x10000) :
    ∃ a b, bytes value = [a, b] ∧ unit a b = value

/-- The low byte first. -/
def ByteOrder.little : ByteOrder where
  unit := littleEndian
  bytes value := [UInt8.ofNat (value % 256), UInt8.ofNat (value / 256)]
  unit_lt a b := by
    have := a.toNat_lt
    have := b.toNat_lt
    rw [littleEndian]
    omega
  bytes_unit a b := by
    have := a.toNat_lt
    rw [littleEndian, Utf8.byte_eq a (by omega), Utf8.byte_eq b (by omega)]
  exists_bytes small := by
    refine ⟨_, _, rfl, ?_⟩
    rw [littleEndian, Utf8.toNat_byte (by omega), Utf8.toNat_byte (by omega)]
    omega

def ByteOrder.big : ByteOrder where
  unit := bigEndian
  bytes value := [UInt8.ofNat (value / 256), UInt8.ofNat (value % 256)]
  unit_lt a b := by
    have := a.toNat_lt
    have := b.toNat_lt
    rw [bigEndian]
    omega
  bytes_unit a b := by
    have := b.toNat_lt
    rw [bigEndian, Utf8.byte_eq a (by omega), Utf8.byte_eq b (by omega)]
  exists_bytes small := by
    refine ⟨_, _, rfl, ?_⟩
    rw [bigEndian, Utf8.toNat_byte (by omega), Utf8.toNat_byte (by omega)]
    omega

variable {order : ByteOrder} {bytes : List UInt8} {text : List Char}

theorem units?_flatMap {units : List Nat} (small : ∀ unit ∈ units, unit < 0x10000) :
    units? order.unit (units.flatMap order.bytes) = some units := by
  induction units with
  | nil => rfl
  | cons value rest ih =>
    rw [List.forall_mem_cons] at small
    obtain ⟨a, b, same, unit⟩ := order.exists_bytes small.1
    rw [List.flatMap_cons, same, List.cons_append, List.cons_append, List.nil_append, units?,
      ih small.2, unit, Option.map_some]

theorem of_units? {units : List Nat} (read : units? order.unit bytes = some units) :
    (∀ unit ∈ units, unit < 0x10000) ∧ units.flatMap order.bytes = bytes := by
  fun_induction units? order.unit bytes generalizing units with
  | case1 => cases read; exact ⟨nofun, rfl⟩
  | case2 => cases read
  | case3 a b rest ih =>
    obtain ⟨others, readOthers, rfl⟩ := Option.map_eq_some_iff.mp read
    obtain ⟨small, whole⟩ := ih readOthers
    rw [List.forall_mem_cons, List.flatMap_cons, whole, order.bytes_unit]
    exact ⟨⟨order.unit_lt a b, small⟩, rfl⟩

/-- Bytes read as units and these as a text are the bytes of the units of the text. -/
theorem bind_ofUnits?_eq_some_iff (order : ByteOrder) :
    (units? order.unit bytes).bind ofUnits? = some text ↔
      (unitsOf text).flatMap order.bytes = bytes := by
  rw [Option.bind_eq_some_iff]
  constructor
  · rintro ⟨units, read, readText⟩
    obtain ⟨small, whole⟩ := of_units? read
    rw [unitsOf_of_ofUnits? small readText, whole]
  · rintro rfl
    exact ⟨unitsOf text, units?_flatMap unit_lt_of_mem_unitsOf, ofUnits?_unitsOf text⟩

/-! ### Byte order marks -/

/-- An encoding of Unicode. -/
inductive UnicodeForm where
  | utf8
  | utf16le
  | utf16be
  deriving DecidableEq

namespace UnicodeForm

def encoding : UnicodeForm → Encoding
  | .utf8 => .utf8
  | .utf16le => .utf16le
  | .utf16be => .utf16be

theorem encoding_injective : Function.Injective encoding := by
  intro form other same
  cases form <;> cases other <;> simp_all [encoding]

def encode (text : List Char) : UnicodeForm → List UInt8
  | .utf8 => Utf8.encode text
  | .utf16le => (unitsOf text).flatMap ByteOrder.little.bytes
  | .utf16be => (unitsOf text).flatMap ByteOrder.big.bytes

/-- A byte string without one byte order mark of the form in front. -/
def unmarked (form : UnicodeForm) (bytes : List UInt8) : List UInt8 :=
  if form.encoding.mark <+: bytes then bytes.drop form.encoding.mark.length else bytes

theorem ofMark?_mark_append (form : UnicodeForm) (rest : List UInt8) :
    ofMark? (form.encoding.mark ++ rest) = some form.encoding := by
  cases form <;> rfl

theorem ofMark?_eq_some_iff {form : UnicodeForm} :
    ofMark? bytes = some form.encoding ↔ form.encoding.mark <+: bytes := by
  constructor
  · intro found
    unfold ofMark? at found
    split at found
    · cases form <;> cases found
      exact ⟨_, rfl⟩
    · cases form <;> cases found
      exact ⟨_, rfl⟩
    · cases form <;> cases found
      exact ⟨_, rfl⟩
    · cases found
  · rintro ⟨rest, rfl⟩
    exact ofMark?_mark_append form rest

theorem body_eq_unmarked (form : UnicodeForm) (bytes : List UInt8) :
    form.encoding.body bytes = form.unmarked bytes := by
  rw [body, unmarked]
  simp only [ofMark?_eq_some_iff]

/-- A byte string decodes to a text when it is the bytes of the text, a mark in front aside. -/
theorem decode?_eq_some_iff {form : UnicodeForm} :
    form.encoding.decode? bytes = some text ↔ form.encode text = form.unmarked bytes := by
  rw [← body_eq_unmarked]
  cases form with
  | utf8 => exact Utf8.decode?_eq_some_iff
  | utf16le => exact bind_ofUnits?_eq_some_iff .little
  | utf16be => exact bind_ofUnits?_eq_some_iff .big

/-- The mark of another form is no mark of this one. -/
theorem unmarked_of_ne {form other : UnicodeForm} (different : form ≠ other) (rest : List UInt8) :
    form.unmarked (other.encoding.mark ++ rest) = other.encoding.mark ++ rest := by
  refine if_neg fun marked => different ?_
  have found := (ofMark?_eq_some_iff.mpr marked).symm.trans (ofMark?_mark_append other rest)
  exact encoding_injective (Option.some.inj found)

theorem unmarked_mark_append (form : UnicodeForm) (bytes : List UInt8) :
    form.unmarked (form.encoding.mark ++ bytes) = bytes := by
  rw [unmarked, if_pos (List.prefix_append _ _), List.drop_left]

/-- What is encoded behind a mark reads back. -/
theorem decode?_mark_append (form : UnicodeForm) (text : List Char) :
    form.encoding.decode? (form.encoding.mark ++ form.encode text) = some text := by
  rw [decode?_eq_some_iff, unmarked_mark_append]

end UnicodeForm

/-! ### Windows-1252 -/

theorem body_windows1252 (bytes : List UInt8) : windows1252.body bytes = bytes := by
  refine if_neg fun found => ?_
  unfold ofMark? at found
  split at found <;> cases found

/-- The exceptional characters differ from each other and from those of the other bytes. -/
theorem windows1252High_nodup : windows1252High.Nodup := by decide

theorem windows1252High_apart :
    ∀ c ∈ windows1252High, 0x80 ≤ c.toNat ∧ (c.toNat ≤ 0x9F ∨ 0xFF < c.toNat) := by
  have all : windows1252High.all fun c => 0x80 ≤ c.toNat ∧ (c.toNat ≤ 0x9F ∨ 0xFF < c.toNat) := by
    decide
  exact fun c mem => of_decide_eq_true (List.all_eq_true.mp all c mem)

/-- The character of an exceptional byte is its entry in the table. -/
theorem windows1252Char_of_high {byte : UInt8} (low : 0x80 ≤ byte.toNat)
    (high : byte.toNat ≤ 0x9F) :
    ∃ inside : byte.toNat - 0x80 < windows1252High.length,
      windows1252Char byte = windows1252High[byte.toNat - 0x80] := by
  have between : (0x80 ≤ byte && byte ≤ 0x9F) = true := Utf8.between_iff.mpr ⟨low, high⟩
  have inside : byte.toNat - 0x80 < windows1252High.length := by
    change byte.toNat - 0x80 < 32
    omega
  refine ⟨inside, ?_⟩
  rw [windows1252Char, if_pos between, List.getD_eq_getElem _ _ inside]

theorem toNat_windows1252Char_of_other {byte : UInt8}
    (other : ¬ (0x80 ≤ byte.toNat ∧ byte.toNat ≤ 0x9F)) :
    (windows1252Char byte).toNat = byte.toNat := by
  have apart : ¬ (0x80 ≤ byte && byte ≤ 0x9F) = true := fun between =>
    other (Utf8.between_iff.mp between)
  have small := byte.toNat_lt
  rw [windows1252Char, if_neg apart, Utf8.toNat_charOfNat (by omega)]

theorem windows1252Char_injective : Function.Injective windows1252Char := by
  -- Both bytes exceptional, or both not, is settled by the table; this is the mixed case.
  have apart {a b : UInt8} (high : 0x80 ≤ a.toNat ∧ a.toNat ≤ 0x9F)
      (other : ¬ (0x80 ≤ b.toNat ∧ b.toNat ≤ 0x9F)) : windows1252Char a ≠ windows1252Char b := by
    intro same
    obtain ⟨inside, entry⟩ := windows1252Char_of_high high.1 high.2
    have bounds := windows1252High_apart _ (List.getElem_mem inside)
    rw [← entry, same, toNat_windows1252Char_of_other other] at bounds
    have small := b.toNat_lt
    omega
  intro a b same
  by_cases highA : 0x80 ≤ a.toNat ∧ a.toNat ≤ 0x9F
  · by_cases highB : 0x80 ≤ b.toNat ∧ b.toNat ≤ 0x9F
    · obtain ⟨insideA, entryA⟩ := windows1252Char_of_high highA.1 highA.2
      obtain ⟨insideB, entryB⟩ := windows1252Char_of_high highB.1 highB.2
      rw [entryA, entryB, windows1252High_nodup.getElem_inj_iff] at same
      exact UInt8.toNat_inj.mp (by omega)
    · exact absurd same (apart highA highB)
  · by_cases highB : 0x80 ≤ b.toNat ∧ b.toNat ≤ 0x9F
    · exact absurd same.symm (apart highB highA)
    · have value := congrArg Char.toNat same
      rw [toNat_windows1252Char_of_other highA, toNat_windows1252Char_of_other highB] at value
      exact UInt8.toNat_inj.mp value

/-- Every byte string is a text in windows-1252. -/
theorem decode?_windows1252 (bytes : List UInt8) :
    windows1252.decode? bytes = some (bytes.map windows1252Char) := by
  rw [decode?, body_windows1252]

/-! ### Decoding -/

/-- A byte string decodes in an encoding of Unicode to the text whose bytes it is, one byte order
mark of this encoding in front aside, and to no other; the mark of another encoding counts as
text. Windows-1252 reads every byte string, each byte as one character of its own. -/
theorem decode?_exact :
    (∀ (form : UnicodeForm) (bytes : List UInt8) (text : List Char),
      form.encoding.decode? bytes = some text ↔ form.encode text = form.unmarked bytes) ∧
      (∀ (form : UnicodeForm) (text : List Char),
        form.encoding.decode? (form.encoding.mark ++ form.encode text) = some text) ∧
      (∀ (form other : UnicodeForm) (rest : List UInt8) (text : List Char), form ≠ other →
        (form.encoding.decode? (other.encoding.mark ++ rest) = some text ↔
          form.encode text = other.encoding.mark ++ rest)) ∧
      (∀ bytes, ∃ text, windows1252.decode? bytes = some text ∧ text.length = bytes.length) ∧
      Function.Injective windows1252.decode? := by
  refine ⟨fun _ _ _ => UnicodeForm.decode?_eq_some_iff, UnicodeForm.decode?_mark_append, ?_, ?_,
    ?_⟩
  · intro form other rest text different
    rw [UnicodeForm.decode?_eq_some_iff, UnicodeForm.unmarked_of_ne different]
  · intro bytes
    exact ⟨_, decode?_windows1252 bytes, List.length_map ..⟩
  · intro bytes others same
    rw [decode?_windows1252, decode?_windows1252] at same
    exact List.map_injective_iff.mpr windows1252Char_injective (Option.some.inj same)

example : utf16le.decode? [0x00, 0xD8, 0x61, 0x00] = none := by decide

/-- The mark of the other byte order is read as the character U+FFFE. -/
theorem decode?_exact_foreignMark :
    UnicodeForm.utf16le ≠ .utf16be ∧
      utf16le.decode? (utf16be.mark ++ [0x41, 0x00]) = some ['\uFFFE', 'A'] := by
  have different : UnicodeForm.utf16le ≠ .utf16be := by decide
  exact ⟨different, (decode?_exact.2.2.1 _ _ _ _ different).mpr (by decide)⟩

end Encoding

end ScanMerge.Text
