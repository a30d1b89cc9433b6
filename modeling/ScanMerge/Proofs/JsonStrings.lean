import ScanMerge.Json.Parser
import ScanMerge.Json.Basic
import ScanMerge.Proofs.Utf8

/-!
Strings of JSON text. Any character of a string may be written escaped, and quotes, backslashes and
control characters have to be; the string is read from each of its spellings, whatever stands
behind it.
-/

set_option autoImplicit false

namespace ScanMerge.Json

open Text.Utf8 (encode encodeChar)

def Gives {α : Type} {p : List UInt8 → Prop}
    (outcome : Except Stop (α × { rest : List UInt8 // p rest })) (value : α)
    (rest : List UInt8) : Prop :=
  ∃ proper : p rest, outcome = .ok (value, ⟨rest, proper⟩)

/-- An outcome is one value. -/
theorem Gives.unique {α : Type} {p : List UInt8 → Prop}
    {outcome : Except Stop (α × { rest : List UInt8 // p rest })} {value other : α}
    {rest last : List UInt8} (gives : Gives outcome value rest) (again : Gives outcome other last) :
    value = other := by
  obtain ⟨_, rfl⟩ := gives
  obtain ⟨_, same⟩ := again
  cases same
  rfl

section StringBytes

variable {rest bytes after : List UInt8}

/-- The byte stands for itself in a string. -/
def IsPlain (byte : UInt8) : Prop :=
  byte ≠ 0x22 ∧ byte ≠ 0x5C ∧ ¬ byte < 0x20

theorem gives_plain (reads : Gives (readStringBytes rest) bytes after) {plain : List UInt8}
    (allPlain : ∀ byte ∈ plain, IsPlain byte) :
    Gives (readStringBytes (plain ++ rest)) (plain ++ bytes) after := by
  induction plain with
  | nil => exact reads
  | cons byte others ih =>
    obtain ⟨shorter, read⟩ := ih fun other member => allPlain other (List.mem_cons_of_mem _ member)
    obtain ⟨notQuote, notBackslash, notControl⟩ := allPlain byte List.mem_cons_self
    rw [List.cons_append, List.cons_append]
    refine ⟨shorter.cons, ?_⟩
    rw [readStringBytes, if_neg notQuote, if_neg notBackslash, if_neg notControl, read]
    rfl

theorem gives_escape {c : Char} {input : List UInt8} (escape : Gives (readEscape input) c rest)
    (reads : Gives (readStringBytes rest) bytes after) :
    Gives (readStringBytes (0x5C :: input)) (encodeChar c ++ bytes) after := by
  obtain ⟨inner, escape⟩ := escape
  obtain ⟨shorter, read⟩ := reads
  refine ⟨(shorter.trans inner).cons, ?_⟩
  rw [readStringBytes, if_neg (by decide), if_pos rfl, escape]
  simp only [read]

theorem gives_simpleEscape {c : Char} {letter : UInt8} (notCode : letter ≠ 0x75)
    (simple : simpleEscape? letter = some c) : Gives (readEscape (letter :: rest)) c rest := by
  refine ⟨shorter_cons_self, ?_⟩
  rw [readEscape, if_neg notCode, simple]
  rfl

/-! ### Control characters by their number -/

theorem hexDigit_lt (value : Nat) (bound : value < 16) : (hexDigit value).toNat < 0x80 := by
  decide +revert

theorem hexValue?_hexDigit (value : Nat) (bound : value < 16) :
    hexValue? (UInt8.ofNat (hexDigit value).toNat) = some value := by
  decide +revert

theorem gives_readHex {a b c d : UInt8} {first second third fourth : Nat}
    (isFirst : hexValue? a = some first) (isSecond : hexValue? b = some second)
    (isThird : hexValue? c = some third) (isFourth : hexValue? d = some fourth)
    (rest : List UInt8) :
    Gives (readHex (a :: b :: c :: d :: rest))
      (first * 4096 + second * 256 + third * 16 + fourth) rest := by
  refine ⟨shorter_cons_self.cons.cons.cons, ?_⟩
  rw [readHex, isFirst, isSecond, isThird, isFourth]
  rfl

theorem gives_codeEscape {input : List UInt8} {code : Nat} (reads : Gives (readHex input) code rest)
    (small : code < 0xD800) : Gives (readEscape (0x75 :: input)) (Char.ofNat code) rest := by
  obtain ⟨shorter, read⟩ := reads
  refine ⟨shorter.cons, ?_⟩
  rw [readEscape, if_pos rfl, readCodePoint, read]
  simp only
  rw [if_neg (by omega), if_neg (by omega)]
  rfl

theorem gives_controlCharacter {c : Char} (control : c.toNat < 0x20) :
    Gives (readEscape (0x75 :: 0x30 :: 0x30 :: UInt8.ofNat (hexDigit (c.toNat / 16)).toNat ::
      UInt8.ofNat (hexDigit (c.toNat % 16)).toNat :: rest)) c rest := by
  have zero : hexValue? 0x30 = some 0 := by decide
  have code : 0 * 4096 + 0 * 256 + c.toNat / 16 * 16 + c.toNat % 16 = c.toNat := by omega
  have reads := gives_readHex zero zero (hexValue?_hexDigit (c.toNat / 16) (by omega))
    (hexValue?_hexDigit (c.toNat % 16) (by omega)) rest
  rw [code] at reads
  have escape := gives_codeEscape reads (by omega)
  rwa [Char.ofNat_toNat] at escape

/-! ### Characters -/

theorem isPlain_ofNat {value : Nat} (small : value < 256) (printable : 0x20 ≤ value)
    (notQuote : value ≠ 0x22) (notBackslash : value ≠ 0x5C) : IsPlain (UInt8.ofNat value) := by
  have byte := Text.Utf8.toNat_byte small
  refine ⟨?_, ?_, ?_⟩
  · rintro same
    exact notQuote (byte.symm.trans (congrArg UInt8.toNat same))
  · rintro same
    exact notBackslash (byte.symm.trans (congrArg UInt8.toNat same))
  · rw [Text.Utf8.byte_lt small]
    exact Nat.not_lt.mpr printable

theorem isPlain_of_mem_encodeChar {c : Char} (notQuote : c ≠ '"') (notBackslash : c ≠ '\\')
    (printable : ¬ c.toNat < 0x20) : ∀ byte ∈ encodeChar c, IsPlain byte := by
  have valid : c.toNat < 0xD800 ∨ 0xDFFF < c.toNat ∧ c.toNat < 0x110000 := c.valid
  have notQuoteCode : c.toNat ≠ 0x22 := fun same =>
    notQuote (Char.toNat_inj.mp same)
  have notBackslashCode : c.toNat ≠ 0x5C := fun same =>
    notBackslash (Char.toNat_inj.mp same)
  intro byte member
  rw [encodeChar] at member
  split at member
  · rw [List.mem_singleton] at member
    subst member
    exact isPlain_ofNat (by omega) (by omega) notQuoteCode notBackslashCode
  · split at member
    · simp only [List.mem_cons, List.not_mem_nil, or_false] at member
      rcases member with rfl | rfl <;>
        exact isPlain_ofNat (by omega) (by omega) (by omega) (by omega)
    · split at member
      · simp only [List.mem_cons, List.not_mem_nil, or_false] at member
        rcases member with rfl | rfl | rfl <;>
          exact isPlain_ofNat (by omega) (by omega) (by omega) (by omega)
      · simp only [List.mem_cons, List.not_mem_nil, or_false] at member
        rcases member with rfl | rfl | rfl | rfl <;>
          exact isPlain_ofNat (by omega) (by omega) (by omega) (by omega)

/-- The ways to write a character inside a string. -/
inductive Written (c : Char) : List Char → Prop
  | letter (letter : Char) (ascii : letter.toNat < 0x80)
      (notCode : UInt8.ofNat letter.toNat ≠ 0x75)
      (simple : simpleEscape? (UInt8.ofNat letter.toNat) = some c) : Written c ['\\', letter]
  | code (control : c.toNat < 0x20) :
      Written c ['\\', 'u', '0', '0', hexDigit (c.toNat / 16), hexDigit (c.toNat % 16)]
  | plain (notQuote : c ≠ '"') (notBackslash : c ≠ '\\') (printable : ¬ c.toNat < 0x20) :
      Written c [c]

theorem written_escapedChar (c : Char) : Written c (escapedChar c) := by
  have ofCode {code : Nat} (same : c.toNat = code) : Char.ofNat code = c := by
    rw [← same, Char.ofNat_toNat]
  rw [escapedChar]
  split
  · next same => subst same; exact .letter _ (by decide) (by decide) rfl
  split
  · next same => subst same; exact .letter _ (by decide) (by decide) rfl
  split
  · next same => subst same; exact .letter _ (by decide) (by decide) rfl
  split
  · next same => subst same; exact .letter _ (by decide) (by decide) rfl
  split
  · next same => subst same; exact .letter _ (by decide) (by decide) rfl
  split
  · next same => exact .letter _ (by decide) (by decide) (congrArg some (ofCode same))
  split
  · next same => exact .letter _ (by decide) (by decide) (congrArg some (ofCode same))
  split
  · next control => exact .code control
  · next notQuote notBackslash _ _ _ _ _ printable => exact .plain notQuote notBackslash printable

/-- A character reads back from any of them. -/
theorem gives_written {c : Char} {text : List Char} (written : Written c text)
    (reads : Gives (readStringBytes rest) bytes after) :
    Gives (readStringBytes (encode text ++ rest)) (encodeChar c ++ bytes) after := by
  cases written with
  | letter letter ascii notCode simple =>
    rw [Text.Utf8.encode_cons, Text.Utf8.encode_cons, Text.Utf8.encodeChar_of_lt ascii]
    exact gives_escape (gives_simpleEscape notCode simple) reads
  | code control =>
    rw [Text.Utf8.encode_cons, Text.Utf8.encode_cons, Text.Utf8.encode_cons, Text.Utf8.encode_cons,
      Text.Utf8.encode_cons, Text.Utf8.encode_cons,
      Text.Utf8.encodeChar_of_lt (hexDigit_lt (c.toNat / 16) (by omega)),
      Text.Utf8.encodeChar_of_lt (hexDigit_lt (c.toNat % 16) (by omega))]
    exact gives_escape (gives_controlCharacter control) reads
  | plain notQuote notBackslash printable =>
    rw [Text.Utf8.encode_cons, Text.Utf8.encode, List.flatMap_nil, List.append_nil]
    exact gives_plain reads (isPlain_of_mem_encodeChar notQuote notBackslash printable)

end StringBytes

/-! ### Strings -/

/-- The value of a hexadecimal digit, in either case. -/
inductive HexDigit (c : Char) : Nat → Prop where
  | decimal (range : 0x30 ≤ c.toNat ∧ c.toNat ≤ 0x39) : HexDigit c (c.toNat - 0x30)
  | upper (range : 0x41 ≤ c.toNat ∧ c.toNat ≤ 0x46) : HexDigit c (c.toNat - 0x37)
  | lower (range : 0x61 ≤ c.toNat ∧ c.toNat ≤ 0x66) : HexDigit c (c.toNat - 0x57)

/-- Four hexadecimal digits with their value. -/
inductive IsHex : List Char → Nat → Prop where
  | digits {a b c d : Char} {first second third fourth : Nat} (isFirst : HexDigit a first)
      (isSecond : HexDigit b second) (isThird : HexDigit c third) (isFourth : HexDigit d fourth) :
      IsHex [a, b, c, d] (first * 4096 + second * 256 + third * 16 + fourth)

/-- The spellings of a character inside a string: itself, by a letter, by its number, or by two
numbers. -/
inductive SpellsChar (c : Char) : List Char → Prop where
  | written {text : List Char} (written : Written c text) : SpellsChar c text
  | code {digits : List Char} (hex : IsHex digits c.toNat) : SpellsChar c ('\\' :: 'u' :: digits)
  | pair {high low : List Char} {first second : Nat} (isHigh : IsHex high first)
      (isLow : IsHex low second) (highRange : 0xD800 ≤ first ∧ first ≤ 0xDBFF)
      (lowRange : 0xDC00 ≤ second ∧ second ≤ 0xDFFF)
      (code : c.toNat = 0x10000 + (first - 0xD800) * 0x400 + (second - 0xDC00)) :
      SpellsChar c ('\\' :: 'u' :: (high ++ '\\' :: 'u' :: low))

/-- The spellings of a text behind the opening quote. -/
inductive SpellsText : List Char → List Char → Prop where
  | done : SpellsText [] ['"']
  | char {c : Char} {text spelling others : List Char} (first : SpellsChar c spelling)
      (rest : SpellsText text others) : SpellsText (c :: text) (spelling ++ others)

section Strings

variable {rest bytes after : List UInt8}

theorem HexDigit.isAscii {c : Char} {value : Nat} (digit : HexDigit c value) : c.toNat < 0x80 := by
  cases digit <;> omega

theorem HexDigit.hexValue?_eq {c : Char} {value : Nat} (digit : HexDigit c value) :
    hexValue? (UInt8.ofNat c.toNat) = some value := by
  have small : c.toNat < 256 := Nat.lt_trans digit.isAscii (by decide)
  have decimals : (0x30 ≤ UInt8.ofNat c.toNat && UInt8.ofNat c.toNat ≤ 0x39) = true ↔
      0x30 ≤ c.toNat ∧ c.toNat ≤ 0x39 := Text.Utf8.byte_between small
  have uppers : (0x41 ≤ UInt8.ofNat c.toNat && UInt8.ofNat c.toNat ≤ 0x46) = true ↔
      0x41 ≤ c.toNat ∧ c.toNat ≤ 0x46 := Text.Utf8.byte_between small
  have lowers : (0x61 ≤ UInt8.ofNat c.toNat && UInt8.ofNat c.toNat ≤ 0x66) = true ↔
      0x61 ≤ c.toNat ∧ c.toNat ≤ 0x66 := Text.Utf8.byte_between small
  rw [hexValue?, Text.Utf8.toNat_byte small]
  cases digit with
  | decimal range => rw [if_pos (decimals.mpr range)]
  | upper range => rw [if_neg (by rw [decimals]; omega), if_pos (uppers.mpr range)]
  | lower range =>
    rw [if_neg (by rw [decimals]; omega), if_neg (by rw [uppers]; omega),
      if_pos (lowers.mpr range)]

theorem IsHex.gives_readHex {digits : List Char} {value : Nat} (hex : IsHex digits value)
    (rest : List UInt8) : Gives (readHex (encode digits ++ rest)) value rest := by
  cases hex with
  | digits isFirst isSecond isThird isFourth =>
    rw [Text.Utf8.encode_cons, Text.Utf8.encode_cons, Text.Utf8.encode_cons, Text.Utf8.encode_cons,
      Text.Utf8.encodeChar_of_lt isFirst.isAscii, Text.Utf8.encodeChar_of_lt isSecond.isAscii,
      Text.Utf8.encodeChar_of_lt isThird.isAscii, Text.Utf8.encodeChar_of_lt isFourth.isAscii]
    exact Json.gives_readHex isFirst.hexValue?_eq isSecond.hexValue?_eq isThird.hexValue?_eq
      isFourth.hexValue?_eq rest

theorem gives_numberEscape {c : Char} {digits : List Char} (hex : IsHex digits c.toNat) :
    Gives (readEscape (0x75 :: (encode digits ++ rest))) c rest := by
  have valid : c.toNat < 0xD800 ∨ 0xDFFF < c.toNat ∧ c.toNat < 0x110000 := c.valid
  obtain ⟨shorter, read⟩ := hex.gives_readHex rest
  refine ⟨shorter.cons, ?_⟩
  rw [readEscape, if_pos rfl, readCodePoint, read]
  simp only
  rw [if_neg (by omega), if_neg (by omega), Char.ofNat_toNat]
  rfl

/-- A character outside the basic plane is written as two numbers. -/
theorem gives_pairEscape {c : Char} {high low : List Char} {first second : Nat}
    (isHigh : IsHex high first) (isLow : IsHex low second)
    (highRange : 0xD800 ≤ first ∧ first ≤ 0xDBFF) (lowRange : 0xDC00 ≤ second ∧ second ≤ 0xDFFF)
    (code : c.toNat = 0x10000 + (first - 0xD800) * 0x400 + (second - 0xDC00)) :
    Gives (readEscape (0x75 :: (encode high ++ (0x5C :: 0x75 :: (encode low ++ rest))))) c
      rest := by
  obtain ⟨shorter, read⟩ := isHigh.gives_readHex (0x5C :: 0x75 :: (encode low ++ rest))
  obtain ⟨lowShorter, readLow⟩ := isLow.gives_readHex rest
  have half : readLowSurrogate first (0x5C :: 0x75 :: (encode low ++ rest)) =
      .ok (c, ⟨rest, lowShorter.cons.cons⟩) := by
    rw [readLowSurrogate, if_neg (by decide), if_neg (by decide), readLow]
    simp only
    rw [if_pos lowRange, ← code, Char.ofNat_toNat]
    rfl
  refine ⟨(lowShorter.cons.cons.trans shorter).cons, ?_⟩
  rw [readEscape, if_pos rfl, readCodePoint, read]
  simp only
  rw [if_neg (by omega), if_pos highRange, half]
  rfl

theorem gives_spelledChar {c : Char} {spelling : List Char} (spells : SpellsChar c spelling)
    (reads : Gives (readStringBytes rest) bytes after) :
    Gives (readStringBytes (encode spelling ++ rest)) (encodeChar c ++ bytes) after := by
  cases spells with
  | written written => exact gives_written written reads
  | code hex =>
    rw [Text.Utf8.encode_cons, Text.Utf8.encode_cons]
    exact gives_escape (gives_numberEscape hex) reads
  | @pair high low _ _ isHigh isLow highRange lowRange code =>
    have bytes : encode ('\\' :: 'u' :: (high ++ '\\' :: 'u' :: low)) ++ rest =
        0x5C :: 0x75 :: (encode high ++ (0x5C :: 0x75 :: (encode low ++ rest))) := by
      rw [Text.Utf8.encode_cons, Text.Utf8.encode_cons, Text.Utf8.encode_append,
        Text.Utf8.encode_cons, Text.Utf8.encode_cons]
      simp only [List.append_assoc]
      rfl
    rw [bytes]
    exact gives_escape (gives_pairEscape isHigh isLow highRange lowRange code) reads

theorem gives_spelledBytes {text spelling : List Char} (spells : SpellsText text spelling)
    (after : List UInt8) :
    Gives (readStringBytes (encode spelling ++ after)) (encode text) after := by
  induction spells with
  | done =>
    change Gives (readStringBytes (0x22 :: after)) [] after
    exact ⟨shorter_cons_self, by rw [readStringBytes, if_pos rfl]; rfl⟩
  | char first _ ih =>
    rw [Text.Utf8.encode_append, List.append_assoc, Text.Utf8.encode_cons]
    exact gives_spelledChar first ih

/-- A string is read from any of its spellings. -/
theorem gives_spelledText {text spelling : List Char} (spells : SpellsText text spelling)
    (after : List UInt8) :
    Gives (readString (encode spelling ++ after)) (String.ofList text) after := by
  obtain ⟨shorter, read⟩ := gives_spelledBytes spells after
  refine ⟨shorter, ?_⟩
  rw [readString, read]
  simp only [Text.Utf8.decode?_encode]

/-- The text of a string behind its opening quote. -/
def quotedRest (text : List Char) : List Char :=
  text.flatMap escapedChar ++ ['"']

/-- The text of a string in quotes is one of its spellings. -/
theorem spellsText_quotedRest (text : List Char) : SpellsText text (quotedRest text) := by
  induction text with
  | nil => exact .done
  | cons c rest ih =>
    rw [quotedRest, List.flatMap_cons, List.append_assoc]
    exact .char (.written (written_escapedChar c)) ih

end Strings

end ScanMerge.Json
