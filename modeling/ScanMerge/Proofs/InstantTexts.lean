import ScanMerge.Instant
import ScanMerge.Proofs.DecimalDigits

/-!
The text of an instant for data files. It reads back as the instant, with years of any number of
digits, fractions of none, three, six or nine digits, and leap seconds.
-/

set_option autoImplicit false

namespace ScanMerge.Instant

/-- The parts of an instant are in range. A leap second follows the last second of a minute. -/
structure IsProper (instant : Instant) : Prop where
  date : instant.date.isValid = true
  second : instant.second < secondsPerDay
  nanosecond : instant.nanosecond < 2 * nanosecondsPerSecond
  leap : nanosecondsPerSecond ≤ instant.nanosecond → instant.second % 60 = 59

/-! ### Digits -/

theorem valueOfDigits_eq (digits : List Char) : valueOfDigits digits = Decimal.valueOf digits := by
  have step (start : Nat) :
      digits.foldl (fun value digit => value * 10 + (digit.toNat - 48)) start =
        Nat.ofDigitChars 10 digits start := by
    induction digits generalizing start with
    | nil => rfl
    | cons c rest ih =>
      rw [Nat.ofDigitChars_cons, List.foldl_cons, ih, Nat.mul_comm]
      rfl
  exact step 0

section Padded

variable {width value : Nat}

theorem isDigit_padded {c : Char} (member : c ∈ padded width value) : c.isDigit = true := by
  rcases List.mem_append.mp member with zero | digit
  · rw [List.eq_of_mem_replicate zero]
    rfl
  · exact Decimal.isDigit_of_mem digit

@[simp] theorem valueOfDigits_padded : valueOfDigits (padded width value) = value := by
  rw [valueOfDigits_eq, padded, Decimal.valueOf_append, Decimal.valueOf_zeros, Nat.mul_zero,
    Nat.zero_add, Decimal.valueOf_toDigits]

theorem padded_ne_nil : padded width value ≠ [] :=
  List.append_ne_nil_of_right_ne_nil _ Nat.toDigits_ne_nil

theorem length_padded (positive : 0 < width) (small : value < 10 ^ width) :
    (padded width value).length = width := by
  have most := (Nat.length_toDigits_le_iff (by decide) positive).mpr small
  rw [padded, List.length_append, List.length_replicate]
  omega

theorem readDigits?_padded (width value : Nat) (positive : 0 < width)
    (small : value < 10 ^ width) (rest : List Char) :
    readDigits? width (padded width value ++ rest) = some (value, rest) := by
  have length := length_padded positive small
  have allDigits : (padded width value).all Char.isDigit = true :=
    List.all_eq_true.mpr fun _ => isDigit_padded
  rw [readDigits?, List.take_left' length, List.drop_left' length, if_pos ⟨length, allDigits⟩,
    valueOfDigits_padded]

section Run

variable {c : Char} (notDigit : c.isDigit = false) (rest : List Char)

include notDigit

theorem takeWhile_padded :
    (padded width value ++ c :: rest).takeWhile Char.isDigit = padded width value := by
  rw [List.takeWhile_append_of_pos fun _ => isDigit_padded,
    List.takeWhile_cons_of_neg (by rw [notDigit]; exact Bool.false_ne_true), List.append_nil]

theorem dropWhile_padded :
    (padded width value ++ c :: rest).dropWhile Char.isDigit = c :: rest := by
  rw [List.dropWhile_append_of_pos fun _ => isDigit_padded,
    List.dropWhile_cons_of_neg (by rw [notDigit]; exact Bool.false_ne_true)]

end Run

end Padded

/-! ### Dates -/

theorem readYear?_yearText (year : Int) (rest : List Char) :
    readYear? (yearText year ++ '-' :: rest) = some (year, '-' :: rest) := by
  rw [yearText]
  split
  · next common =>
    cases digits : padded 4 year.toNat with
    | nil => exact absurd digits padded_ne_nil
    | cons first others =>
      have digit : first.isDigit = true :=
        isDigit_padded (by rw [digits]; exact List.mem_cons_self)
      have read := readDigits?_padded 4 year.toNat (by decide) (by omega)
        ('-' :: rest)
      rw [digits] at read
      rw [List.cons_append] at read ⊢
      have different (other : Char) (noDigit : other.isDigit = false) : first ≠ other := by
        rintro rfl
        rw [digit] at noDigit
        cases noDigit
      rw [readYear?, read, Option.map_some]
      · simp only [Int.toNat_of_nonneg common.1]
      · intro _ shape
        exact different '+' rfl (List.cons.inj shape).1
      · intro _ shape
        exact different '-' rfl (List.cons.inj shape).1
  · by_cases negative : year < 0
    · rw [if_pos negative, List.cons_append]
      simp only [readYear?, takeWhile_padded (c := '-') rfl, dropWhile_padded (c := '-') rfl,
        valueOfDigits_padded, if_neg padded_ne_nil, if_true]
      congr 2
      omega
    · rw [if_neg negative, List.cons_append]
      simp only [readYear?, takeWhile_padded (c := '-') rfl, dropWhile_padded (c := '-') rfl,
        valueOfDigits_padded, if_neg padded_ne_nil, Bool.false_eq_true, if_false]
      congr 2
      omega

theorem readDate?_dateText {instant : Instant} (valid : instant.date.isValid = true)
    (rest : List Char) :
    readDate? (instant.dateText ++ rest) = some (instant.date, rest) := by
  have bounds := valid
  simp only [Date.isValid, Bool.and_eq_true, decide_eq_true_eq] at bounds
  obtain ⟨⟨⟨-, month⟩, -⟩, day⟩ := bounds
  have days : Date.daysInMonth instant.date.year instant.date.month ≤ 31 := by
    rw [Date.daysInMonth]
    split
    · split <;> decide
    · split <;> decide
  have month := readDigits?_padded 2 instant.date.month (by decide) (by omega)
  have day := readDigits?_padded 2 instant.date.day (by decide) (by omega)
  simp [dateText, readDate?, readYear?_yearText, readChar?, month, day, valid]

/-! ### Times -/

theorem readFraction?_padded {count value : Nat} (positive : 0 < count) (most : count ≤ 9)
    (small : value < 10 ^ count) (rest : List Char) :
    readFraction? ('.' :: (padded count value ++ 'Z' :: rest)) =
      some (value * 10 ^ (9 - count), 'Z' :: rest) := by
  have length := length_padded positive small
  simp only [readFraction?, takeWhile_padded (c := 'Z') rfl, dropWhile_padded (c := 'Z') rfl,
    List.take_of_length_le (Nat.le_trans (Nat.le_of_eq length) most), if_neg padded_ne_nil,
    valueOfDigits_padded, length]
  rfl

theorem readFraction?_fractionText (instant : Instant) (rest : List Char) :
    readFraction? (instant.fractionText ++ 'Z' :: rest) =
      some (instant.nanosecond % nanosecondsPerSecond, 'Z' :: rest) := by
  have less := Nat.mod_lt instant.nanosecond (show 0 < nanosecondsPerSecond by decide)
  rw [nanosecondsPerSecond] at less
  rw [fractionText]
  generalize fraction : instant.nanosecond % nanosecondsPerSecond = value
  rw [nanosecondsPerSecond] at fraction
  rw [fraction] at less
  split
  · next none => rw [none]; rfl
  split
  · rw [List.cons_append, readFraction?_padded (by decide) (by decide) (by omega)]
    congr 2
    omega
  split
  · rw [List.cons_append, readFraction?_padded (by decide) (by decide) (by omega)]
    congr 2
    omega
  · rw [List.cons_append, readFraction?_padded (by decide) (by decide) (by omega)]
    congr 2
    omega

theorem readTime?_timeText {instant : Instant} (proper : instant.IsProper) :
    readTime? (instant.timeText ++ (instant.fractionText ++ ['Z'])) =
      some (instant.second, instant.nanosecond, ['Z']) := by
  obtain ⟨-, inDay, inSecond, leap⟩ := proper
  rw [secondsPerDay] at inDay
  rw [nanosecondsPerSecond] at inSecond leap
  have hour := readDigits?_padded 2 (instant.second / 3600) (by decide)
    (by omega)
  have minute := readDigits?_padded 2 (instant.second / 60 % 60) (by decide)
    (by omega)
  have second := readDigits?_padded 2 instant.secondOfMinute (by decide)
    (by rw [secondOfMinute, nanosecondsPerSecond]; omega)
  simp only [timeText, readTime?, List.append_assoc, List.cons_append, hour, minute, second,
    readChar?, readFraction?_fractionText, Option.bind_eq_bind, Option.bind_some, decide_true,
    if_true]
  rw [secondOfMinute, nanosecondsPerSecond]
  have hours : instant.second / 3600 < 24 := by omega
  have minutes : instant.second / 60 % 60 < 60 := by omega
  by_cases isLeap : 1000000000 ≤ instant.nanosecond
  · -- The sixtieth second is written, and read as a part of the one before it.
    have last := leap isLeap
    have sixty : instant.second % 60 + instant.nanosecond / 1000000000 = 60 := by omega
    have whole : instant.second / 3600 * 3600 + instant.second / 60 % 60 * 60 + 59 =
        instant.second := by omega
    have fraction : 1000000000 + instant.nanosecond % 1000000000 = instant.nanosecond := by omega
    rw [sixty, if_neg (by omega), if_pos ⟨hours, minutes, rfl⟩, whole, fraction]
  · have common : instant.second % 60 + instant.nanosecond / 1000000000 = instant.second % 60 := by
      omega
    have whole : instant.second / 3600 * 3600 + instant.second / 60 % 60 * 60 +
        instant.second % 60 = instant.second := by omega
    have fraction : instant.nanosecond % 1000000000 = instant.nanosecond := by omega
    rw [common, if_pos ⟨hours, minutes, Nat.mod_lt _ (by decide)⟩, whole, fraction]

/-- An instant reads back from its text. -/
theorem ofText?_text {instant : Instant} (proper : instant.IsProper) :
    ofText? instant.text.toList = some instant := by
  simp [text, ofText?, readDate?_dateText proper.date, readTime?_timeText proper, readChar?,
    readOffset?, back]

end ScanMerge.Instant
