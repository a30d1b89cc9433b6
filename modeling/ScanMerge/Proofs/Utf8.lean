import ScanMerge.Text.Utf8

/-!
Reading a text back from its bytes. The bytes of a character are one piece, and what follows them
falls into pieces as it would alone; so a text is the characters of the pieces of its bytes.
-/

set_option autoImplicit false

namespace ScanMerge.Text.Utf8

theorem toNat_byte {value : Nat} (small : value < 256) : (UInt8.ofNat value).toNat = value :=
  UInt8.toNat_ofNat_of_lt' small

/-- A byte made of a number lies between two others as the number does. -/
theorem byte_between {value : Nat} (small : value < 256) {low high : UInt8} :
    (low ≤ UInt8.ofNat value && UInt8.ofNat value ≤ high) = true ↔
      low.toNat ≤ value ∧ value ≤ high.toNat := by
  rw [Bool.and_eq_true, decide_eq_true_eq, decide_eq_true_eq, UInt8.le_iff_toNat_le,
    UInt8.le_iff_toNat_le, toNat_byte small]

theorem byte_lt {value : Nat} (small : value < 256) {bound : UInt8} :
    UInt8.ofNat value < bound ↔ value < bound.toNat := by
  rw [UInt8.lt_iff_toNat_lt, toNat_byte small]

theorem isContinuation_byte (bits : Nat) :
    isContinuation (UInt8.ofNat (0x80 + bits % 64)) = true := by
  rw [isContinuation, byte_between (by omega)]
  change 128 ≤ 0x80 + bits % 64 ∧ 0x80 + bits % 64 ≤ 191
  omega

theorem payload_byte (bits : Nat) : payload (UInt8.ofNat (0x80 + bits % 64)) = bits % 64 := by
  rw [payload, toNat_byte (by omega)]
  omega

section Characters

variable {code : Nat} (rest : List UInt8)

theorem pieces_one (bound : code < 0x80) :
    pieces (UInt8.ofNat code :: rest) = .char (Char.ofNat code) 1 :: pieces rest := by
  have leads : UInt8.ofNat code < 0x80 := (byte_lt (by omega)).mpr bound
  rw [pieces.eq_def]
  simp only [leads, if_true, toNat_byte (show code < 256 by omega)]

theorem pieces_two (low : 0x80 ≤ code) (bound : code < 0x800) :
    pieces (UInt8.ofNat (0xC0 + code / 64) :: UInt8.ofNat (0x80 + code % 64) :: rest) =
      .char (Char.ofNat code) 2 :: pieces rest := by
  have small : 0xC0 + code / 64 < 256 := by omega
  have whole : (0xC0 + code / 64) % 32 * 64 + code % 64 = code := by omega
  rw [pieces.eq_def]
  dsimp only
  rw [if_neg, if_pos]
  · simp only [isContinuation_byte, payload_byte, toNat_byte small, whole, if_true]
  · rw [byte_between small]
    change 194 ≤ 0xC0 + code / 64 ∧ 0xC0 + code / 64 ≤ 223
    omega
  · rw [byte_lt small]
    change ¬ 0xC0 + code / 64 < 128
    omega

/-- The second of three bytes: the first character written with three is 0x800, and there are no
characters from 0xD800 to 0xDFFF. -/
theorem isSecondOfThree_byte (low : 0x800 ≤ code) (bound : code < 0x10000)
    (valid : code < 0xD800 ∨ 0xDFFF < code) :
    isSecondOfThree (UInt8.ofNat (0xE0 + code / 4096)) (UInt8.ofNat (0x80 + code / 64 % 64)) =
      true := by
  have value : (UInt8.ofNat (0xE0 + code / 4096)).toNat = 0xE0 + code / 4096 :=
    toNat_byte (by omega)
  rw [isSecondOfThree]
  split
  · next first =>
    have least : 0xE0 + code / 4096 = 0xE0 := by rw [← value, first]; rfl
    rw [byte_between (by omega)]
    change 160 ≤ 0x80 + code / 64 % 64 ∧ 0x80 + code / 64 % 64 ≤ 191
    omega
  · split
    · next first =>
      have last : 0xE0 + code / 4096 = 0xED := by rw [← value, first]; rfl
      rw [byte_between (by omega)]
      change 128 ≤ 0x80 + code / 64 % 64 ∧ 0x80 + code / 64 % 64 ≤ 159
      omega
    · exact isContinuation_byte (code / 64)

theorem pieces_three (low : 0x800 ≤ code) (bound : code < 0x10000)
    (valid : code < 0xD800 ∨ 0xDFFF < code) :
    pieces (UInt8.ofNat (0xE0 + code / 4096) :: UInt8.ofNat (0x80 + code / 64 % 64) ::
        UInt8.ofNat (0x80 + code % 64) :: rest) =
      .char (Char.ofNat code) 3 :: pieces rest := by
  have small : 0xE0 + code / 4096 < 256 := by omega
  have whole : (0xE0 + code / 4096) % 16 * 4096 + code / 64 % 64 * 64 + code % 64 = code := by
    omega
  rw [pieces.eq_def]
  dsimp only
  rw [if_neg, if_neg, if_pos]
  · simp only [isSecondOfThree_byte low bound valid, isContinuation_byte, payload_byte,
      toNat_byte small, whole, if_true]
  · rw [byte_between small]
    change 224 ≤ 0xE0 + code / 4096 ∧ 0xE0 + code / 4096 ≤ 239
    omega
  · rw [byte_between small]
    change ¬ (194 ≤ 0xE0 + code / 4096 ∧ 0xE0 + code / 4096 ≤ 223)
    omega
  · rw [byte_lt small]
    change ¬ 0xE0 + code / 4096 < 128
    omega

/-- The second of four bytes: the first character written with four is 0x10000, and the last one is
0x10FFFF. -/
theorem isSecondOfFour_byte (low : 0x10000 ≤ code) (bound : code < 0x110000) :
    isSecondOfFour (UInt8.ofNat (0xF0 + code / 262144)) (UInt8.ofNat (0x80 + code / 4096 % 64)) =
      true := by
  have value : (UInt8.ofNat (0xF0 + code / 262144)).toNat = 0xF0 + code / 262144 :=
    toNat_byte (by omega)
  rw [isSecondOfFour]
  split
  · next first =>
    have least : 0xF0 + code / 262144 = 0xF0 := by rw [← value, first]; rfl
    rw [byte_between (by omega)]
    change 144 ≤ 0x80 + code / 4096 % 64 ∧ 0x80 + code / 4096 % 64 ≤ 191
    omega
  · split
    · next first =>
      have last : 0xF0 + code / 262144 = 0xF4 := by rw [← value, first]; rfl
      rw [byte_between (by omega)]
      change 128 ≤ 0x80 + code / 4096 % 64 ∧ 0x80 + code / 4096 % 64 ≤ 143
      omega
    · exact isContinuation_byte (code / 4096)

theorem pieces_four (low : 0x10000 ≤ code) (bound : code < 0x110000) :
    pieces (UInt8.ofNat (0xF0 + code / 262144) :: UInt8.ofNat (0x80 + code / 4096 % 64) ::
        UInt8.ofNat (0x80 + code / 64 % 64) :: UInt8.ofNat (0x80 + code % 64) :: rest) =
      .char (Char.ofNat code) 4 :: pieces rest := by
  have small : 0xF0 + code / 262144 < 256 := by omega
  have whole : (0xF0 + code / 262144) % 8 * 262144 + code / 4096 % 64 * 4096 +
      code / 64 % 64 * 64 + code % 64 = code := by omega
  rw [pieces.eq_def]
  dsimp only
  rw [if_neg, if_neg, if_neg, if_pos]
  · simp only [isSecondOfFour_byte low bound, isContinuation_byte, payload_byte,
      toNat_byte small, whole, if_true]
  · rw [byte_between small]
    change 240 ≤ 0xF0 + code / 262144 ∧ 0xF0 + code / 262144 ≤ 244
    omega
  · rw [byte_between small]
    change ¬ (224 ≤ 0xF0 + code / 262144 ∧ 0xF0 + code / 262144 ≤ 239)
    omega
  · rw [byte_between small]
    change ¬ (194 ≤ 0xF0 + code / 262144 ∧ 0xF0 + code / 262144 ≤ 223)
    omega
  · rw [byte_lt small]
    change ¬ 0xF0 + code / 262144 < 128
    omega

end Characters

/-- The bytes of a character are the piece that is the character. -/
theorem pieces_encodeChar (c : Char) (rest : List UInt8) :
    pieces (encodeChar c ++ rest) = .char c (encodeChar c).length :: pieces rest := by
  have valid : c.toNat < 0xD800 ∨ 0xDFFF < c.toNat ∧ c.toNat < 0x110000 := c.valid
  rw [encodeChar]
  split
  · next one =>
    have piece := pieces_one rest one
    rwa [Char.ofNat_toNat] at piece
  · split
    · next notOne two =>
      have piece := pieces_two rest (Nat.not_lt.mp notOne) two
      rwa [Char.ofNat_toNat] at piece
    · split
      · next notTwo three =>
        have piece := pieces_three rest (Nat.not_lt.mp notTwo) three (valid.imp_right And.left)
        rwa [Char.ofNat_toNat] at piece
      · next notThree =>
        have piece := pieces_four rest (Nat.not_lt.mp notThree) (by omega)
        rwa [Char.ofNat_toNat] at piece

theorem encode_cons (c : Char) (rest : List Char) :
    encode (c :: rest) = encodeChar c ++ encode rest :=
  List.flatMap_cons

theorem encode_append (front back : List Char) :
    encode (front ++ back) = encode front ++ encode back :=
  List.flatMap_append

theorem encodeChar_of_lt {c : Char} (ascii : c.toNat < 0x80) :
    encodeChar c = [UInt8.ofNat c.toNat] :=
  if_pos ascii

/-- A text reads back from its bytes. -/
theorem decode?_encode (text : List Char) : decode? (encode text) = some text := by
  induction text with
  | nil => rfl
  | cons c rest ih =>
    rw [decode?] at ih
    rw [decode?, encode, List.flatMap_cons, pieces_encodeChar, List.mapM_cons, ← encode, ih]
    rfl

/-- Nothing is replaced in the bytes of a text. -/
theorem decodeLossy_encode (text : List Char) : decodeLossy (encode text) = text := by
  induction text with
  | nil => rfl
  | cons c rest ih =>
    rw [decodeLossy] at ih
    rw [decodeLossy, encode, List.flatMap_cons, pieces_encodeChar, List.map_cons, ← encode, ih]
    rfl

theorem faultAmong_encode (text : List Char) (index : Nat) :
    faultAmong index (pieces (encode text)) = none := by
  induction text generalizing index with
  | nil => rfl
  | cons c rest ih =>
    rw [encode_cons, pieces_encodeChar, faultAmong]
    exact ih _

/-- Nothing is wrong with the bytes of a text. -/
theorem fault?_encode (text : List Char) : fault? (encode text) = none :=
  faultAmong_encode text 0

/-! ### Bytes that are UTF-8 -/

theorem between_iff {byte low high : UInt8} :
    (low ≤ byte && byte ≤ high) = true ↔ low.toNat ≤ byte.toNat ∧ byte.toNat ≤ high.toNat := by
  rw [Bool.and_eq_true, decide_eq_true_eq, decide_eq_true_eq, UInt8.le_iff_toNat_le,
    UInt8.le_iff_toNat_le]

theorem isContinuation_iff {byte : UInt8} :
    isContinuation byte = true ↔ 0x80 ≤ byte.toNat ∧ byte.toNat ≤ 0xBF :=
  between_iff

/-- After `0xE0` no overlong form, and after `0xED` no surrogate. -/
theorem isSecondOfThree_iff {first second : UInt8} :
    isSecondOfThree first second = true ↔
      0x80 ≤ second.toNat ∧ second.toNat ≤ 0xBF ∧ (first.toNat = 0xE0 → 0xA0 ≤ second.toNat) ∧
        (first.toNat = 0xED → second.toNat ≤ 0x9F) := by
  have equals (other : UInt8) : first = other ↔ first.toNat = other.toNat := UInt8.toNat_inj.symm
  have overlong : first = 0xE0 ↔ first.toNat = 0xE0 := equals 0xE0
  have surrogate : first = 0xED ↔ first.toNat = 0xED := equals 0xED
  rw [isSecondOfThree]
  split
  · next same =>
    have value := overlong.mp same
    rw [between_iff]
    change 160 ≤ _ ∧ _ ≤ 191 ↔ _
    omega
  · next different =>
    rw [overlong] at different
    split
    · next same =>
      have value := surrogate.mp same
      rw [between_iff]
      change 128 ≤ _ ∧ _ ≤ 159 ↔ _
      omega
    · next other =>
      rw [surrogate] at other
      rw [isContinuation_iff]
      omega

/-- After `0xF0` no overlong form, and after `0xF4` nothing past the last plane. -/
theorem isSecondOfFour_iff {first second : UInt8} :
    isSecondOfFour first second = true ↔
      0x80 ≤ second.toNat ∧ second.toNat ≤ 0xBF ∧ (first.toNat = 0xF0 → 0x90 ≤ second.toNat) ∧
        (first.toNat = 0xF4 → second.toNat ≤ 0x8F) := by
  have equals (other : UInt8) : first = other ↔ first.toNat = other.toNat := UInt8.toNat_inj.symm
  have overlong : first = 0xF0 ↔ first.toNat = 0xF0 := equals 0xF0
  have past : first = 0xF4 ↔ first.toNat = 0xF4 := equals 0xF4
  rw [isSecondOfFour]
  split
  · next same =>
    have value := overlong.mp same
    rw [between_iff]
    change 144 ≤ _ ∧ _ ≤ 191 ↔ _
    omega
  · next different =>
    rw [overlong] at different
    split
    · next same =>
      have value := past.mp same
      rw [between_iff]
      change 128 ≤ _ ∧ _ ≤ 143 ↔ _
      omega
    · next other =>
      rw [past] at other
      rw [isContinuation_iff]
      omega

theorem toNat_charOfNat {code : Nat} (valid : code < 0xD800 ∨ 0xDFFF < code ∧ code < 0x110000) :
    (Char.ofNat code).toNat = code := by
  have isValid : Nat.isValidChar code := valid
  rw [Char.ofNat, dif_pos isValid]
  rfl

theorem byte_eq (byte : UInt8) {value : Nat} (same : byte.toNat = value) :
    UInt8.ofNat value = byte := by
  rw [← same, UInt8.ofNat_toNat]

section Bytes

variable {a b c d : UInt8}

theorem encodeChar_of_one (ascii : a < 0x80) : encodeChar (Char.ofNat a.toNat) = [a] := by
  rw [UInt8.lt_iff_toNat_lt] at ascii
  change a.toNat < 128 at ascii
  rw [encodeChar, toNat_charOfNat (by omega), if_pos ascii, UInt8.ofNat_toNat]

theorem encodeChar_of_two (leads : (0xC2 ≤ a && a ≤ 0xDF) = true)
    (second : isContinuation b = true) :
    encodeChar (Char.ofNat (a.toNat % 32 * 64 + payload b)) = [a, b] := by
  rw [between_iff] at leads
  change 194 ≤ a.toNat ∧ a.toNat ≤ 223 at leads
  rw [isContinuation_iff] at second
  rw [payload, encodeChar, toNat_charOfNat (by omega)]
  rw [if_neg (by omega), if_pos (by omega), byte_eq a (by omega),
    byte_eq b (by omega)]

theorem encodeChar_of_three (leads : (0xE0 ≤ a && a ≤ 0xEF) = true)
    (second : isSecondOfThree a b = true) (third : isContinuation c = true) :
    encodeChar (Char.ofNat (a.toNat % 16 * 4096 + payload b * 64 + payload c)) = [a, b, c] := by
  rw [between_iff] at leads
  change 224 ≤ a.toNat ∧ a.toNat ≤ 239 at leads
  rw [isSecondOfThree_iff] at second
  rw [isContinuation_iff] at third
  rw [payload, payload, encodeChar, toNat_charOfNat (by omega)]
  rw [if_neg (by omega), if_neg (by omega), if_pos (by omega), byte_eq a (by omega),
    byte_eq b (by omega), byte_eq c (by omega)]

theorem encodeChar_of_four (leads : (0xF0 ≤ a && a ≤ 0xF4) = true)
    (second : isSecondOfFour a b = true) (third : isContinuation c = true)
    (fourth : isContinuation d = true) :
    encodeChar (Char.ofNat
      (a.toNat % 8 * 262144 + payload b * 4096 + payload c * 64 + payload d)) = [a, b, c, d] := by
  rw [between_iff] at leads
  change 240 ≤ a.toNat ∧ a.toNat ≤ 244 at leads
  rw [isSecondOfFour_iff] at second
  rw [isContinuation_iff] at third fourth
  rw [payload, payload, payload, encodeChar, toNat_charOfNat (by omega)]
  rw [if_neg (by omega), if_neg (by omega), if_neg (by omega), byte_eq a (by omega),
    byte_eq b (by omega), byte_eq c (by omega),
    byte_eq d (by omega)]

end Bytes

/-- The bytes of which a text reads are the bytes of that text. -/
theorem encode_of_decode? {bytes : List UInt8} {text : List Char}
    (decodes : decode? bytes = some text) : encode text = bytes := by
  have front {value : Char} {width : Nat} {rest : List Piece} {text : List Char}
      (read : (Piece.char value width :: rest).mapM Piece.char? = some text) :
      ∃ others, rest.mapM Piece.char? = some others ∧ text = value :: others := by
    rw [List.mapM_cons] at read
    obtain ⟨_, ⟨⟩, read⟩ := Option.bind_eq_some_iff.mp read
    obtain ⟨others, read, same⟩ := Option.bind_eq_some_iff.mp read
    exact ⟨others, read, (Option.some.inj same).symm⟩
  rw [decode?] at decodes
  fun_induction pieces bytes generalizing text with
  | case1 => cases decodes; rfl
  | case2 a rest ascii ih =>
    obtain ⟨others, read, rfl⟩ := front decodes
    rw [encode, List.flatMap_cons, encodeChar_of_one ascii, ← encode, ih read]
    rfl
  | case4 a notAscii leads b rest second ih =>
    obtain ⟨others, read, rfl⟩ := front decodes
    rw [encode, List.flatMap_cons, encodeChar_of_two leads second, ← encode, ih read]
    rfl
  | case8 a notAscii notTwo leads b second c rest third ih =>
    obtain ⟨others, read, rfl⟩ := front decodes
    rw [encode, List.flatMap_cons, encodeChar_of_three leads second third, ← encode, ih read]
    rfl
  | case14 a notAscii notTwo notThree leads b second c third d rest fourth ih =>
    obtain ⟨others, read, rfl⟩ := front decodes
    rw [encode, List.flatMap_cons, encodeChar_of_four leads second third fourth, ← encode, ih read]
    rfl
  -- Of a piece that is no character nothing reads.
  | _ => cases decodes

/-- Strict decoding reads the bytes of a text as this text and reads nothing else. -/
theorem decode?_eq_some_iff {bytes : List UInt8} {text : List Char} :
    decode? bytes = some text ↔ encode text = bytes := by
  constructor
  · exact encode_of_decode?
  · rintro rfl
    exact decode?_encode text

end ScanMerge.Text.Utf8
