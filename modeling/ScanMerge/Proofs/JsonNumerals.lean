import ScanMerge.Proofs.JsonNumbers

/-!
Numerals of JSON text. What is read of a number does not depend on what follows it, so a numeral
stands for one value wherever it is written.
-/

set_option autoImplicit false

namespace ScanMerge.Json

open Text.Utf8 (encode)

/-! ### Digits before something else -/

section Digits

variable {digits after : List UInt8} (ends : NoDigit after)

include ends

theorem takeWhile_append_of_noDigit :
    (digits ++ after).takeWhile isDigit = digits.takeWhile isDigit := by
  induction digits with
  | nil =>
    cases after with
    | nil => rfl
    | cons byte rest =>
      exact List.takeWhile_cons_of_neg (by rw [ends byte rfl]; exact Bool.false_ne_true)
  | cons byte rest ih => rw [List.cons_append, List.takeWhile_cons, List.takeWhile_cons, ih]

theorem dropWhile_append_of_noDigit :
    (digits ++ after).dropWhile isDigit = digits.dropWhile isDigit ++ after := by
  induction digits with
  | nil =>
    cases after with
    | nil => rfl
    | cons byte rest =>
      exact List.dropWhile_cons_of_neg (by rw [ends byte rfl]; exact Bool.false_ne_true)
  | cons byte rest ih =>
    rw [List.cons_append, List.dropWhile_cons, List.dropWhile_cons, ih]
    split <;> rfl

theorem integerDigits_append (start : Nat) :
    integerDigits start (digits ++ after) =
      ((integerDigits start digits).1, (integerDigits start digits).2.1,
        (integerDigits start digits).2.2 ++ after) := by
  induction digits generalizing start with
  | nil =>
    cases after with
    | nil => rfl
    | cons byte rest => simp [integerDigits, ends byte rfl]
  | cons byte rest ih =>
    rw [List.cons_append, integerDigits, integerDigits, takeWhile_append_of_noDigit ends,
      dropWhile_append_of_noDigit ends]
    split
    · split
      · rfl
      · exact ih _
    · rfl

theorem fractionDigits_append (start : Nat) (exponent : Int) :
    fractionDigits start exponent (digits ++ after) =
      ((fractionDigits start exponent digits).1,
        (fractionDigits start exponent digits).2 ++ after) := by
  induction digits generalizing start exponent with
  | nil =>
    cases after with
    | nil => rfl
    | cons byte rest => simp [fractionDigits, ends byte rfl]
  | cons byte rest ih =>
    rw [List.cons_append, fractionDigits, fractionDigits, dropWhile_append_of_noDigit ends]
    split
    · split
      · rfl
      · exact ih _ _
    · rfl

theorem exponentDigits_append (start : Nat) :
    exponentDigits start (digits ++ after) =
      ((exponentDigits start digits).1, (exponentDigits start digits).2 ++ after) := by
  induction digits generalizing start with
  | nil =>
    cases after with
    | nil => rfl
    | cons byte rest => simp [exponentDigits, ends byte rfl]
  | cons byte rest ih =>
    rw [List.cons_append, exponentDigits, exponentDigits]
    split
    · split
      · rfl
      · exact ih _
    · rfl

end Digits

/-! ### Parts of a number before something else -/

section Parts

variable {negative : Bool} {significand : Nat} {start : Int} {input rest after : List UInt8}
  {value : Json}

theorem unsigned_append {first : UInt8} {others : List UInt8}
    (shape : unsigned input = first :: others) :
    unsigned (input ++ after) = first :: (others ++ after) := by
  cases input with
  | nil => cases shape
  | cons byte rest =>
    rw [unsigned] at shape
    rw [List.cons_append, unsigned]
    split
    · next sign =>
      rw [if_pos sign] at shape
      rw [shape]
      rfl
    · next noSign =>
      rw [if_neg noSign] at shape
      cases shape
      rfl

theorem doubleOf_after {others : List UInt8}
    (read : doubleOf negative significand start input = .ok value) :
    doubleOf negative significand start others = .ok value := by
  rw [doubleOf] at read ⊢
  split at read
  · exact read
  · cases read

theorem gives_readExponent_append (ends : NoDigit after)
    (reads : Gives (readExponent negative significand start input) value rest) :
    Gives (readExponent negative significand start (input ++ after)) value (rest ++ after) := by
  rw [gives_exponent_iff] at reads ⊢
  obtain ⟨first, others, shape, digit, reads⟩ := reads
  have some : (input ++ after).head? = input.head? := by
    cases input with
    | nil => cases shape
    | cons byte rest => rfl
  refine ⟨first, others ++ after, unsigned_append shape, digit, ?_⟩
  rw [exponentDigits_append ends, some]
  obtain ⟨exponent, reading, double⟩ | ⟨last, reading, small, rfl, rfl⟩ := reads
  · rw [reading]
    exact .inl ⟨exponent, rfl, doubleOf_after double⟩
  · rw [reading]
    exact .inr ⟨last ++ after, rfl, small, rfl, (dropWhile_append_of_noDigit ends).symm⟩

theorem gives_readScaled_append (ends : EndsNumber after)
    (reads : Gives (readScaled negative significand start input) value rest) :
    Gives (readScaled negative significand start (input ++ after)) value (rest ++ after) := by
  cases input with
  | nil =>
    obtain ⟨double, rfl⟩ := gives_scaledNil_iff.mp reads
    exact gives_scaledEnd ends (doubleOf_after double)
  | cons byte others =>
    by_cases letter : byte = 0x65 ∨ byte = 0x45
    · rw [gives_letter_iff letter] at reads
      rw [List.cons_append, gives_letter_iff letter]
      exact gives_readExponent_append ends.noDigit reads
    · obtain ⟨double, rfl⟩ := (gives_scaled_iff letter).mp reads
      exact (gives_scaled_iff letter).mpr ⟨doubleOf_after double, rfl⟩

theorem gives_readFraction_append (ends : EndsNumber after)
    (reads : Gives (readFraction negative significand start input) value rest) :
    Gives (readFraction negative significand start (input ++ after)) value (rest ++ after) := by
  rw [gives_fraction_iff] at reads
  obtain ⟨some, reads⟩ := reads
  rw [gives_fraction_iff, fractionDigits_append ends.noDigit]
  exact ⟨some, gives_readScaled_append ends reads⟩

theorem wordOf_after {others : List UInt8} (read : wordOf negative significand input = .ok value) :
    wordOf negative significand others = .ok value := by
  rw [wordOf] at read ⊢
  split
  · next positive => rwa [if_pos positive] at read
  · next isNegative =>
    rw [if_neg isNegative] at read
    split
    · next outside =>
      rw [if_pos outside] at read
      exact doubleOf_after read
    · next inside => rwa [if_neg inside] at read

/-- Digits that did not fit a word are a power of ten: before other input they are scaled, though
nothing that stands there scales them. -/
theorem gives_dropped {dropped : Nat} (some : dropped ≠ 0) (ends : EndsNumber after)
    (double : doubleOf negative significand dropped after = .ok value) :
    Gives (readAfterInteger negative significand dropped after) value after := by
  cases after with
  | nil =>
    rw [gives_integerNil_iff, if_neg some]
    exact ⟨double, rfl⟩
  | cons byte others =>
    rw [gives_scaledInteger_iff (ends byte rfl).2.1 (.inr (.inr some))]
    exact gives_scaledEnd ends double

theorem gives_readAfterInteger_append {dropped : Nat} (ends : EndsNumber after)
    (reads : Gives (readAfterInteger negative significand dropped input) value rest) :
    Gives (readAfterInteger negative significand dropped (input ++ after)) value
      (rest ++ after) := by
  cases input with
  | nil =>
    obtain ⟨whole, rfl⟩ := gives_integerNil_iff.mp reads
    split at whole
    · next none =>
      subst none
      exact gives_wordOf ends (wordOf_after whole)
    · next some => exact gives_dropped some ends (doubleOf_after whole)
  | cons byte others =>
    rw [List.cons_append]
    by_cases point : byte = 0x2E
    · subst point
      rw [gives_point_iff] at reads ⊢
      exact gives_readFraction_append ends reads
    · by_cases scaled : byte = 0x65 ∨ byte = 0x45 ∨ dropped ≠ 0
      · rw [gives_scaledInteger_iff point scaled] at reads ⊢
        exact gives_readScaled_append ends reads
      · obtain ⟨whole, rfl⟩ := (gives_word_iff point scaled).mp reads
        exact (gives_word_iff point scaled).mpr ⟨wordOf_after whole, rfl⟩

theorem NoDigit.append (front : NoDigit input) (ends : NoDigit after) :
    NoDigit (input ++ after) := by
  cases input with
  | nil => exact ends
  | cons byte rest => exact front

/-- What is read of a number does not depend on what follows it. -/
theorem gives_readNumber_append (ends : EndsNumber after)
    (reads : Gives (readNumber negative input) value rest) :
    Gives (readNumber negative (input ++ after)) value (rest ++ after) := by
  obtain ⟨first, others, rfl, digit⟩ := isDigit_of_gives reads
  rw [List.cons_append]
  by_cases zero : first = 0x30
  · subst zero
    rw [gives_zero_iff] at reads ⊢
    obtain ⟨noDigit, reads⟩ := reads
    exact ⟨noDigit.append ends.noDigit, gives_readAfterInteger_append ends reads⟩
  · rw [gives_digits_iff zero digit] at reads ⊢
    rw [integerDigits_append ends.noDigit]
    exact gives_readAfterInteger_append ends reads

end Parts

/-! ### Numerals -/

/-- A numeral behind its sign. It stands for the number that is read of it when nothing follows. -/
def IsNumeral (negative : Bool) (digits : List Char) (value : Json) : Prop :=
  Gives (readNumber negative (encode digits)) value []

theorem exists_double_of_doubleOf {negative : Bool} {significand : Nat} {exponent : Int}
    {rest : List UInt8} {json : Json}
    (read : doubleOf negative significand exponent rest = .ok json) :
    ∃ double, json = .double double := by
  rw [doubleOf] at read
  split at read
  · next double _ => exact ⟨double, (Except.ok.inj read).symm⟩
  · cases read

/-- Digits that make up more than 64 bits hold are not all kept. -/
theorem integerDigits_great {digits : List Char} (allDigits : ∀ c ∈ digits, c.isDigit = true)
    {start : Nat} (small : start ≤ greatestWord)
    (great : greatestWord < Nat.ofDigitChars 10 digits start) :
    ∃ significand dropped,
      integerDigits start (encode digits) = (significand, dropped + 1, []) := by
  induction digits generalizing start with
  | nil => exact absurd great (Nat.not_lt.mpr small)
  | cons c others ih =>
    obtain ⟨digit, otherDigits⟩ := List.forall_mem_cons.mp allDigits
    rw [Nat.ofDigitChars_cons, Nat.mul_comm] at great
    rw [Text.Utf8.encode_cons, encodeChar_digit digit, List.singleton_append, integerDigits,
      if_pos (isDigit_digit digit), digitValue_digit digit]
    split
    · have none : (encode others ++ []).dropWhile isDigit = [] :=
        List.dropWhile_append_of_pos (isDigit_of_mem_encode otherDigits)
      rw [List.append_nil] at none
      rw [none, Nat.add_comm]
      exact ⟨_, _, rfl⟩
    · next fits => exact ih otherDigits (Nat.not_lt.mp fits) great

section Whole

variable {value : Nat} {json : Json} (numeral : IsNumeral false (Nat.toDigits 10 value) json)

include numeral

/-- The digits of a number that 64 bits hold stand for it. -/
theorem IsNumeral.eq_integer (small : value ≤ greatestWord) : json = .integer value := by
  have word : IsWord value := ⟨by omega, by omega⟩
  have reads := gives_word word endsNumber_nil
  have notNegative : decide ((value : Int) < 0) = false := decide_eq_false (by omega)
  rw [notNegative, Int.natAbs_natCast, List.append_nil] at reads
  exact numeral.unique reads

/-- The digits of a greater number stand for a double. -/
theorem IsNumeral.exists_eq_double (great : greatestWord < value) :
    ∃ double, json = .double double := by
  have whole := isWhole_toDigits value
  have same := Decimal.valueOf_toDigits value
  cases digits : Nat.toDigits 10 value with
  | nil => exact absurd digits whole.notEmpty
  | cons first others =>
    rw [digits] at whole same numeral
    obtain ⟨digit, otherDigits⟩ := List.forall_mem_cons.mp whole.allDigits
    have notZero : first ≠ '0' := by
      rintro rfl
      cases whole.proper rfl
      rw [← same] at great
      exact absurd great (by decide)
    have small : digitValue (UInt8.ofNat first.toNat) ≤ greatestWord := by
      have range := Decimal.toNat_digit digit
      have bound : 10 ≤ greatestWord := by decide
      rw [digitValue_digit digit]
      change first.toNat - 48 ≤ greatestWord
      omega
    rw [Decimal.valueOf, Nat.ofDigitChars_cons, ← digitValue_first digit] at same
    obtain ⟨significand, dropped, scanned⟩ := integerDigits_great otherDigits small (same ▸ great)
    rw [IsNumeral, Text.Utf8.encode_cons, encodeChar_digit digit, List.singleton_append,
      gives_digits_iff (digit_ne_zero digit notZero) (isDigit_digit digit), scanned,
      gives_integerNil_iff, if_neg (Nat.succ_ne_zero dropped)] at numeral
    exact exists_double_of_doubleOf numeral.1

end Whole

end ScanMerge.Json
