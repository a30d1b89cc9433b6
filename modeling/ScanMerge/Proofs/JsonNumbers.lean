import ScanMerge.Proofs.DecimalDigits
import ScanMerge.Proofs.JsonStrings
import ScanMerge.Proofs.Outcomes

/-!
Numbers of JSON text. What a reader makes of digits is their value, and it stops where they stop; a
whole number of 64 bits reads back as it was, and a number with a fraction or an exponent as the
double that scaling its digits gives.
-/

set_option autoImplicit false

namespace ScanMerge.Json

open Decimal (le_ofDigitChars toNat_digit valueOf valueOf_toDigits)
open Text.Utf8 (encode encodeChar)

/-! ### Digits -/

def NoDigit (input : List UInt8) : Prop :=
  ∀ byte ∈ input.head?, isDigit byte = false

section Digit

variable {c : Char} (digit : c.isDigit = true)

include digit

theorem encodeChar_digit : encodeChar c = [UInt8.ofNat c.toNat] :=
  Text.Utf8.encodeChar_of_lt (by have := toNat_digit digit; omega)

theorem isDigit_digit : isDigit (UInt8.ofNat c.toNat) = true := by
  have range := toNat_digit digit
  rw [isDigit, Text.Utf8.byte_between (by omega)]
  exact range

theorem digitValue_digit : digitValue (UInt8.ofNat c.toNat) = c.toNat - '0'.toNat := by
  have range := toNat_digit digit
  rw [digitValue, Text.Utf8.toNat_byte (by omega)]
  rfl

/-- A first digit, as one more behind none. -/
theorem digitValue_first :
    digitValue (UInt8.ofNat c.toNat) = 10 * 0 + (c.toNat - '0'.toNat) := by
  rw [digitValue_digit digit, Nat.mul_zero, Nat.zero_add]

theorem digit_ne_zero (notZero : c ≠ '0') : UInt8.ofNat c.toNat ≠ 0x30 := by
  have range := toNat_digit digit
  intro same
  have value := Text.Utf8.toNat_byte (show c.toNat < 256 by omega)
  exact notZero (Char.toNat_inj.mp (value.symm.trans (congrArg UInt8.toNat same)))

end Digit

theorem isDigit_of_mem_encode {digits : List Char} (allDigits : ∀ c ∈ digits, c.isDigit = true) :
    ∀ byte ∈ encode digits, isDigit byte = true := by
  intro byte member
  obtain ⟨c, inside, member⟩ := List.mem_flatMap.mp member
  rw [encodeChar_digit (allDigits c inside)] at member
  rw [List.mem_singleton.mp member]
  exact isDigit_digit (allDigits c inside)

section Digits

variable {digits : List Char} {rest : List UInt8} (allDigits : ∀ c ∈ digits, c.isDigit = true)
  (ends : NoDigit rest)

include allDigits ends

theorem integerDigits_encode {start : Nat}
    (fits : Nat.ofDigitChars 10 digits start ≤ greatestWord) :
    integerDigits start (encode digits ++ rest) = (Nat.ofDigitChars 10 digits start, 0, rest) := by
  induction digits generalizing start with
  | nil =>
    change integerDigits start rest = (start, 0, rest)
    cases rest with
    | nil => rfl
    | cons byte others =>
      rw [integerDigits, if_neg (by rw [ends byte rfl]; exact Bool.false_ne_true)]
  | cons c others ih =>
    have digit := allDigits c List.mem_cons_self
    rw [Nat.ofDigitChars_cons, Nat.mul_comm] at fits ⊢
    have small := Nat.le_trans (le_ofDigitChars others _) fits
    rw [Text.Utf8.encode_cons, encodeChar_digit digit, List.singleton_append, List.cons_append,
      integerDigits, if_pos (isDigit_digit digit), digitValue_digit digit,
      if_neg (Nat.not_lt.mpr small)]
    exact ih (fun other member => allDigits other (List.mem_cons_of_mem _ member)) fits

theorem fractionDigits_encode {start : Nat} (exponent : Int)
    (fits : Nat.ofDigitChars 10 digits start ≤ greatestWord) :
    fractionDigits start exponent (encode digits ++ rest) =
      ((Nat.ofDigitChars 10 digits start, exponent - digits.length, false), rest) := by
  induction digits generalizing start exponent with
  | nil =>
    change fractionDigits start exponent rest = ((start, exponent - 0, false), rest)
    rw [Int.sub_zero]
    cases rest with
    | nil => rfl
    | cons byte others =>
      rw [fractionDigits, if_neg (by rw [ends byte rfl]; exact Bool.false_ne_true)]
  | cons c others ih =>
    have digit := allDigits c List.mem_cons_self
    rw [Nat.ofDigitChars_cons, Nat.mul_comm] at fits ⊢
    have small := Nat.le_trans (le_ofDigitChars others _) fits
    have lowered : exponent - 1 - others.length = exponent - (c :: others).length := by
      rw [List.length_cons]
      omega
    rw [Text.Utf8.encode_cons, encodeChar_digit digit, List.singleton_append, List.cons_append,
      fractionDigits, if_pos (isDigit_digit digit), digitValue_digit digit,
      if_neg (Nat.not_lt.mpr small),
      ih (fun other member => allDigits other (List.mem_cons_of_mem _ member)) _ fits, lowered]

theorem exponentDigits_encode (start : Nat)
    (fits : Nat.ofDigitChars 10 digits start ≤ greatestExponent) :
    exponentDigits start (encode digits ++ rest) =
      (some (Nat.ofDigitChars 10 digits start), rest) := by
  induction digits generalizing start with
  | nil =>
    change exponentDigits start rest = (some start, rest)
    cases rest with
    | nil => rfl
    | cons byte others =>
      rw [exponentDigits, if_neg (by rw [ends byte rfl]; exact Bool.false_ne_true)]
  | cons c others ih =>
    have digit := allDigits c List.mem_cons_self
    rw [Nat.ofDigitChars_cons, Nat.mul_comm] at fits ⊢
    have small := Nat.le_trans (le_ofDigitChars others _) fits
    rw [Text.Utf8.encode_cons, encodeChar_digit digit, List.singleton_append, List.cons_append,
      exponentDigits, if_pos (isDigit_digit digit), digitValue_digit digit,
      if_neg (Nat.not_lt.mpr small)]
    exact ih (fun other member => allDigits other (List.mem_cons_of_mem _ member)) _ fits

end Digits

/-! ### What the readers of numbers give -/

section Steps

variable {negative : Bool} {significand dropped : Nat} {start : Int} {byte : UInt8}
  {input rest after : List UInt8} {value : Json}

theorem gives_all_iff {outcome : Except Stop Json} :
    Gives (outcome.map fun value => (value, (Remainder.all : Remainder input))) value after ↔
      outcome = .ok value ∧ after = input := by
  constructor
  · rintro ⟨_, read⟩
    obtain ⟨number, whole, same⟩ := exists_of_map_eq_ok read
    cases same
    exact ⟨whole, rfl⟩
  · rintro ⟨rfl, rfl⟩
    exact ⟨.refl, rfl⟩

theorem noDigit_iff : NoDigit rest ↔ (rest.head?.map isDigit).getD false = false := by
  cases rest with
  | nil => exact ⟨fun _ => rfl, fun _ _ none => nomatch none⟩
  | cons byte others => simp [NoDigit]

/-- A number starts with a digit. -/
theorem isDigit_of_gives (reads : Gives (readNumber negative input) value after) :
    ∃ byte rest, input = byte :: rest ∧ isDigit byte = true := by
  obtain ⟨shorter, read⟩ := reads
  cases input with
  | nil => cases shorter
  | cons byte rest =>
    cases digit : isDigit byte with
    | true => exact ⟨byte, rest, rfl, digit⟩
    | false =>
      have notZero : byte ≠ 0x30 := by
        rintro rfl
        cases digit
      rw [readNumber, if_neg notZero, digit, if_neg Bool.false_ne_true] at read
      cases read

/-- No digit may stand behind a zero in front. -/
theorem gives_zero_iff :
    Gives (readNumber negative (0x30 :: rest)) value after ↔
      NoDigit rest ∧ Gives (readAfterInteger negative 0 0 rest) value after := by
  constructor
  · rintro ⟨_, read⟩
    rw [readNumber, if_pos rfl] at read
    split at read
    · cases read
    · next noDigit =>
      refine ⟨noDigit_iff.mpr (Bool.not_eq_true _ ▸ noDigit), ?_⟩
      cases inner : readAfterInteger negative 0 0 rest with
      | error stop => rw [inner] at read; cases read
      | ok outcome =>
        rw [inner] at read
        cases read
        exact ⟨outcome.2.2, rfl⟩
  · rintro ⟨noDigit, bound, read⟩
    refine ⟨bound.shorter_cons, ?_⟩
    rw [readNumber, if_pos rfl, if_neg (by rw [noDigit_iff.mp noDigit]; exact Bool.false_ne_true),
      read]
    rfl

theorem gives_digits_iff (notZero : byte ≠ 0x30) (digit : isDigit byte = true) :
    Gives (readNumber negative (byte :: rest)) value after ↔
      Gives (readAfterInteger negative (integerDigits (digitValue byte) rest).1
        (integerDigits (digitValue byte) rest).2.1 (integerDigits (digitValue byte) rest).2.2)
        value after := by
  constructor
  · rintro ⟨_, read⟩
    rw [readNumber, if_neg notZero, if_pos digit] at read
    split at read
    next number dropped last reading =>
    rw [reading]
    cases inner : readAfterInteger negative number dropped last with
    | error stop => simp only [inner] at read; cases read
    | ok outcome =>
      simp only [inner] at read
      cases read
      exact ⟨outcome.2.2, rfl⟩
  · rintro ⟨bound, read⟩
    refine ⟨(bound.trans (notLonger_integerDigits _ _)).shorter_cons, ?_⟩
    rw [readNumber, if_neg notZero, if_pos digit]
    simp only [read]

theorem gives_integerNil_iff :
    Gives (readAfterInteger negative significand dropped []) value after ↔
      (if dropped = 0 then wordOf negative significand []
        else doubleOf negative significand dropped []) = .ok value ∧ after = [] :=
  gives_all_iff

theorem gives_point_iff :
    Gives (readAfterInteger negative significand dropped (0x2E :: rest)) value after ↔
      Gives (readFraction negative significand dropped rest) value after := by
  constructor
  · rintro ⟨_, read⟩
    rw [readAfterInteger, if_pos rfl] at read
    cases inner : readFraction negative significand dropped rest with
    | error stop => rw [inner] at read; cases read
    | ok outcome =>
      rw [inner] at read
      cases read
      exact ⟨outcome.2.2, rfl⟩
  · rintro ⟨bound, read⟩
    refine ⟨bound.cons, ?_⟩
    rw [readAfterInteger, if_pos rfl, read]
    rfl

theorem gives_scaledInteger_iff (notPoint : byte ≠ 0x2E)
    (scaled : byte = 0x65 ∨ byte = 0x45 ∨ dropped ≠ 0) :
    Gives (readAfterInteger negative significand dropped (byte :: rest)) value after ↔
      Gives (readScaled negative significand dropped (byte :: rest)) value after := by
  rw [readAfterInteger, if_neg notPoint, if_pos scaled]

theorem gives_word_iff (notPoint : byte ≠ 0x2E)
    (whole : ¬ (byte = 0x65 ∨ byte = 0x45 ∨ dropped ≠ 0)) :
    Gives (readAfterInteger negative significand dropped (byte :: rest)) value after ↔
      wordOf negative significand (byte :: rest) = .ok value ∧ after = byte :: rest := by
  rw [readAfterInteger, if_neg notPoint, if_neg whole, gives_all_iff]

/-- There is a digit behind the point, if only one that does not fit. -/
theorem gives_fraction_iff :
    Gives (readFraction negative significand start input) value after ↔
      ¬ ((fractionDigits significand start input).1.2.1 = start ∧
          ¬ (fractionDigits significand start input).1.2.2 = true) ∧
        Gives (readScaled negative (fractionDigits significand start input).1.1
          (fractionDigits significand start input).1.2.1 (fractionDigits significand start input).2)
          value after := by
  constructor
  · rintro ⟨_, read⟩
    rw [readFraction] at read
    split at read
    next digits lowered overflowed last reading =>
    rw [reading]
    split at read
    · split at read <;> cases read
    · next some =>
      refine ⟨some, ?_⟩
      cases inner : readScaled negative digits lowered last with
      | error stop => simp only [inner] at read; cases read
      | ok outcome =>
        simp only [inner] at read
        cases read
        exact ⟨outcome.2.2, rfl⟩
  · rintro ⟨some, bound, read⟩
    refine ⟨bound.trans (notLonger_fractionDigits _ _ _), ?_⟩
    rw [readFraction]
    simp only [if_neg some, read]

theorem gives_scaledNil_iff :
    Gives (readScaled negative significand start []) value after ↔
      doubleOf negative significand start [] = .ok value ∧ after = [] :=
  gives_all_iff

theorem gives_letter_iff (letter : byte = 0x65 ∨ byte = 0x45) :
    Gives (readScaled negative significand start (byte :: rest)) value after ↔
      Gives (readExponent negative significand start rest) value after := by
  constructor
  · rintro ⟨_, read⟩
    rw [readScaled, if_pos letter] at read
    cases inner : readExponent negative significand start rest with
    | error stop => rw [inner] at read; cases read
    | ok outcome =>
      rw [inner] at read
      cases read
      exact ⟨outcome.2.2, rfl⟩
  · rintro ⟨bound, read⟩
    refine ⟨bound.cons, ?_⟩
    rw [readScaled, if_pos letter, read]
    rfl

theorem gives_scaled_iff (noLetter : ¬ (byte = 0x65 ∨ byte = 0x45)) :
    Gives (readScaled negative significand start (byte :: rest)) value after ↔
      doubleOf negative significand start (byte :: rest) = .ok value ∧ after = byte :: rest := by
  rw [readScaled, if_neg noLetter, gives_all_iff]

/-- What the sign at the front of an exponent makes of its digits. -/
def signedExponent (front : Option UInt8) (start : Int) (exponent : Nat) : Int :=
  if front = some 0x2D then start - exponent else start + exponent

theorem gives_fittingExponent {others : List UInt8} {exponent : Nat}
    (shape : unsigned input = byte :: others) (digit : isDigit byte = true)
    (reading : exponentDigits (digitValue byte) others = (some exponent, rest))
    (double : doubleOf negative significand
      (clampExponent (signedExponent input.head? start exponent)) rest = .ok value) :
    Gives (readExponent negative significand start input) value rest := by
  refine ⟨(notLonger_of_exponentDigits reading).cons.trans (notLonger_of_unsigned shape), ?_⟩
  rw [signedExponent] at double
  rw [readExponent]
  split
  · next none => rw [shape] at none; cases none
  · next first last same =>
    rw [shape] at same
    cases same
    rw [if_pos digit]
    split
    · next read =>
      rw [reading] at read
      cases read
      simp only [double]
    · next read =>
      rw [reading] at read
      cases read

/-- The digits that are left of an exponent that grows too great are passed over. -/
theorem gives_greatExponent {others : List UInt8} (shape : unsigned input = byte :: others)
    (digit : isDigit byte = true)
    (reading : exponentDigits (digitValue byte) others = (none, rest))
    (small : ¬ (significand ≠ 0 ∧ ¬ input.head? = some 0x2D)) :
    Gives (readExponent negative significand start input) (.double (.zero negative))
      (rest.dropWhile isDigit) := by
  have past := (notLonger_dropWhile isDigit rest).trans (notLonger_of_exponentDigits reading)
  refine ⟨past.cons.trans (notLonger_of_unsigned shape), ?_⟩
  rw [readExponent]
  split
  · next none => rw [shape] at none; cases none
  · next first last same =>
    rw [shape] at same
    cases same
    rw [if_pos digit]
    split
    · next read =>
      rw [reading] at read
      cases read
    · next read =>
      rw [reading] at read
      cases read
      rw [if_neg small]

theorem gives_exponent_iff :
    Gives (readExponent negative significand start input) value rest ↔
      ∃ first others, unsigned input = first :: others ∧ isDigit first = true ∧
        ((∃ exponent, exponentDigits (digitValue first) others = (some exponent, rest) ∧
          doubleOf negative significand
            (clampExponent (signedExponent input.head? start exponent)) rest = .ok value) ∨
        ∃ last, exponentDigits (digitValue first) others = (none, last) ∧
          ¬ (significand ≠ 0 ∧ ¬ input.head? = some 0x2D) ∧
          value = .double (.zero negative) ∧ rest = last.dropWhile isDigit) := by
  constructor
  · rintro ⟨bound, read⟩
    rw [readExponent] at read
    split at read
    · cases read
    · next first others shape =>
      split at read
      · next digit =>
        refine ⟨first, others, shape, digit, ?_⟩
        split at read
        · next exponent last reading =>
          cases double : doubleOf negative significand
              (clampExponent (signedExponent input.head? start exponent)) last with
          | error stop =>
            rw [signedExponent] at double
            simp only [double] at read
            cases read
          | ok number =>
            have same := double
            rw [signedExponent] at same
            simp only [same] at read
            cases read
            exact .inl ⟨exponent, reading, double⟩
        · next last reading =>
          split at read
          · cases read
          · next small =>
            cases read
            exact .inr ⟨last, reading, small, rfl, rfl⟩
      · cases read
  · rintro ⟨first, others, shape, digit, reads⟩
    obtain ⟨exponent, reading, double⟩ | ⟨last, reading, small, rfl, rfl⟩ := reads
    · exact gives_fittingExponent shape digit reading double
    · exact gives_greatExponent shape digit reading small

end Steps

/-! ### Parts of a number -/

/-- The digits can stand before the point: only a single zero begins with one. -/
structure IsWhole (digits : List Char) : Prop where
  allDigits : ∀ c ∈ digits, c.isDigit = true
  notEmpty : digits ≠ []
  proper : digits.head? = some '0' → digits = ['0']

/-- Nothing stands at the front that would continue a number. -/
def EndsNumber (input : List UInt8) : Prop :=
  ∀ byte ∈ input.head?, isDigit byte = false ∧ byte ≠ 0x2E ∧ byte ≠ 0x65 ∧ byte ≠ 0x45

theorem endsNumber_nil : EndsNumber [] :=
  fun _ none => nomatch none

theorem endsNumber_cons {byte : UInt8}
    (proper : isDigit byte = false ∧ byte ≠ 0x2E ∧ byte ≠ 0x65 ∧ byte ≠ 0x45)
    (rest : List UInt8) : EndsNumber (byte :: rest) := by
  rintro _ ⟨⟩
  exact proper

theorem EndsNumber.noDigit {input : List UInt8} (ends : EndsNumber input) : NoDigit input :=
  fun byte front => (ends byte front).1

section Parts

variable {negative : Bool} {json : Json} {value : Decimal.Double} {rest after : List UInt8}

theorem gives_readNumber {digits : List Char} (whole : IsWhole digits)
    (fits : valueOf digits ≤ greatestWord) (ends : NoDigit rest)
    (reads : Gives (readAfterInteger negative (valueOf digits) 0 rest) json after) :
    Gives (readNumber negative (encode digits ++ rest)) json after := by
  cases digits with
  | nil => exact absurd rfl whole.notEmpty
  | cons first others =>
    obtain ⟨digit, otherDigits⟩ := List.forall_mem_cons.mp whole.allDigits
    rw [Text.Utf8.encode_cons, encodeChar_digit digit, List.singleton_append, List.cons_append]
    by_cases zero : first = '0'
    · subst zero
      cases whole.proper rfl
      exact gives_zero_iff.mpr ⟨ends, reads⟩
    · rw [valueOf, Nat.ofDigitChars_cons, ← digitValue_first digit] at fits reads
      rw [gives_digits_iff (digit_ne_zero digit zero) (isDigit_digit digit),
        integerDigits_encode otherDigits ends fits]
      exact reads

theorem gives_wordOf (ends : EndsNumber after) {significand : Nat}
    (word : wordOf negative significand after = .ok json) :
    Gives (readAfterInteger negative significand 0 after) json after := by
  cases after with
  | nil => exact gives_integerNil_iff.mpr ⟨word, rfl⟩
  | cons byte others =>
    obtain ⟨-, notPoint, notSmall, notGreat⟩ := ends byte rfl
    exact (gives_word_iff notPoint (by simp [notSmall, notGreat])).mpr ⟨word, rfl⟩

theorem gives_readFraction {digits : List Char} (allDigits : ∀ c ∈ digits, c.isDigit = true)
    (notEmpty : digits ≠ []) {whole : Nat}
    (fits : Nat.ofDigitChars 10 digits whole ≤ greatestWord) (ends : NoDigit rest)
    (reads : Gives (readScaled negative (Nat.ofDigitChars 10 digits whole) (-digits.length) rest)
      json after) :
    Gives (readFraction negative whole 0 (encode digits ++ rest)) json after := by
  have scanned := fractionDigits_encode allDigits ends 0 fits
  rw [Int.zero_sub] at scanned
  rw [gives_fraction_iff, scanned]
  have some : ¬ ((-digits.length : Int) = 0 ∧ ¬ (false : Bool) = true) := by
    have positive := List.length_pos_iff.mpr notEmpty
    omega
  exact ⟨some, reads⟩

theorem doubleOf_eq_ok {significand : Nat} {exponent : Int}
    (scaled : (Decimal.Double.ofNat? negative significand).bind (scaleByTen · exponent) =
      some value) (input : List UInt8) :
    doubleOf negative significand exponent input = .ok (.double value) := by
  rw [doubleOf, scaled]

/-- A number ends here. -/
theorem gives_scaledEnd (ends : EndsNumber after) {significand : Nat} {exponent : Int}
    (double : doubleOf negative significand exponent after = .ok json) :
    Gives (readScaled negative significand exponent after) json after := by
  cases after with
  | nil => exact gives_scaledNil_iff.mpr ⟨double, rfl⟩
  | cons byte others =>
    obtain ⟨-, -, notSmall, notGreat⟩ := ends byte rfl
    exact (gives_scaled_iff (by simp [notSmall, notGreat])).mpr ⟨double, rfl⟩

theorem gives_readScaled (ends : EndsNumber after) {significand : Nat} {exponent : Int}
    (scaled : (Decimal.Double.ofNat? negative significand).bind (scaleByTen · exponent) =
      some value) :
    Gives (readScaled negative significand exponent after) (.double value) after :=
  gives_scaledEnd ends (doubleOf_eq_ok scaled after)

/-- The sign of an exponent, and the digits of its magnitude. -/
def exponentText (exponent : Int) : List Char :=
  (if exponent < 0 then '-' else '+') :: Nat.toDigits 10 exponent.natAbs

/-- After the sign of an exponent its digits are read. -/
theorem gives_signed {sign : UInt8} (isSign : sign = 0x2B ∨ sign = 0x2D) (ends : EndsNumber after)
    {magnitude : Nat} (small : magnitude ≤ greatestExponent) {significand : Nat} {start : Int}
    (scaled : (Decimal.Double.ofNat? negative significand).bind (scaleByTen · (clampExponent
      (signedExponent (some sign) start magnitude))) = some value) :
    Gives (readExponent negative significand start
      (sign :: (encode (Nat.toDigits 10 magnitude) ++ after))) (.double value) after := by
  have allDigits : ∀ c ∈ Nat.toDigits 10 magnitude, c.isDigit = true :=
    fun _ => Decimal.isDigit_of_mem
  have whole := valueOf_toDigits magnitude
  cases digits : Nat.toDigits 10 magnitude with
  | nil => exact absurd digits Nat.toDigits_ne_nil
  | cons first others =>
    rw [digits] at allDigits whole
    obtain ⟨digit, otherDigits⟩ := List.forall_mem_cons.mp allDigits
    rw [valueOf, Nat.ofDigitChars_cons, ← digitValue_first digit] at whole
    have scanned := exponentDigits_encode otherDigits ends.noDigit
      (digitValue (UInt8.ofNat first.toNat)) (by rw [whole]; exact small)
    rw [whole] at scanned
    rw [Text.Utf8.encode_cons, encodeChar_digit digit, List.singleton_append, List.cons_append]
    exact gives_fittingExponent (if_pos isSign) (isDigit_digit digit) scanned
      (doubleOf_eq_ok scaled after)

theorem gives_readExponent (ends : EndsNumber after) {significand : Nat} {start exponent : Int}
    (small : exponent.natAbs ≤ greatestExponent)
    (inRange : clampExponent (start + exponent) = start + exponent)
    (scaled : (Decimal.Double.ofNat? negative significand).bind
      (scaleByTen · (start + exponent)) = some value) :
    Gives (readExponent negative significand start (encode (exponentText exponent) ++ after))
      (.double value) after := by
  rw [← inRange] at scaled
  by_cases below : exponent < 0
  · have total : start + exponent = start - (exponent.natAbs : Int) := by omega
    rw [total] at scaled
    rw [exponentText, if_pos below]
    exact gives_signed (.inr rfl) ends small scaled
  · have total : start + exponent = start + (exponent.natAbs : Int) := by omega
    rw [total] at scaled
    rw [exponentText, if_neg below]
    exact gives_signed (.inl rfl) ends small scaled

end Parts

/-! ### Whole numbers -/

theorem isWhole_toDigits (value : Nat) : IsWhole (Nat.toDigits 10 value) where
  allDigits := fun _ => Decimal.isDigit_of_mem
  notEmpty := Nat.toDigits_ne_nil
  proper := fun zero => by rw [Decimal.head?_toDigits zero, Nat.toDigits_zero]

/-- A whole number that 64 bits hold. -/
def IsWord (value : Int) : Prop :=
  -(signedBound : Int) ≤ value ∧ value ≤ greatestWord

/-- A whole number of 64 bits reads back from its text. -/
theorem gives_word {value : Int} (word : IsWord value) {after : List UInt8}
    (ends : EndsNumber after) :
    Gives (readNumber (value < 0) (encode (Nat.toDigits 10 value.natAbs) ++ after)) (.integer value)
      after := by
  have bound : signedBound ≤ greatestWord := by decide
  have digits := valueOf_toDigits value.natAbs
  obtain ⟨least, greatest⟩ := word
  refine gives_readNumber (isWhole_toDigits _) (by rw [digits]; omega) ends.noDigit
    (gives_wordOf ends ?_)
  rw [digits, wordOf]
  by_cases negative : value < 0
  · have number : -(value.natAbs : Int) = value := by omega
    simp only [negative, decide_true, not_true, if_false, number]
    exact if_neg (by omega)
  · have number : (value.natAbs : Int) = value := by omega
    simp only [negative, decide_false, Bool.false_eq_true, not_false_iff, if_true, number]

end ScanMerge.Json
