import ScanMerge.Proofs.JsonNumbers
import ScanMerge.Proofs.ShortestDecimals

/-!
Doubles in JSON text. The digits of a finite double are read as a double again: they are scaled by a
power of ten in steps that are rounded, so the double that is read may be another one, but none of
the steps is too great.
-/

set_option autoImplicit false

namespace ScanMerge.Json

open Decimal (Double Scaled valueOf)
open Decimal.Double (nearest?)
open Text.Utf8 (encode)

/-! ### Scaling by powers of ten -/

theorem greatestPower_lt : (10 : ℚ) ^ 308 < (2 ^ 53 - 1 / 2) * 2 ^ Double.greatestExponent := by
  have greatest : 10 ^ 308 < 9007199254740991 * 2 ^ 971 := by decide +kernel
  have cast := Nat.cast_lt (α := ℚ).mpr greatest
  simp only [Nat.cast_pow, Nat.cast_mul, Nat.cast_ofNat] at cast
  have unit : (2 : ℚ) ^ Double.greatestExponent = 2 ^ 971 := zpow_natCast 2 971
  rw [unit]
  refine cast.trans ?_
  gcongr
  norm_num

theorem exists_powerOfTen {exponent : Nat} (small : exponent ≤ greatestPower) :
    ∃ power, Double.powerOfTen? exponent = some power ∧
      |power.magnitude - 10 ^ exponent| ≤ (10 : ℚ) ^ exponent / 2 ^ 53 := by
  have same : ((Nat.pow 10 exponent : Nat) / (1 : Nat) : ℚ) = 10 ^ exponent := by
    push_cast [Nat.pow_eq]
    exact div_one _
  have one : (1 : ℚ) ≤ (Nat.pow 10 exponent : Nat) / (1 : Nat) := by
    rw [same]
    exact one_le_pow₀ (by norm_num)
  have notTooGreat : ((Nat.pow 10 exponent : Nat) / (1 : Nat) : ℚ) <
      (2 ^ 53 - 1 / 2) * 2 ^ Double.greatestExponent := by
    rw [same]
    exact lt_of_le_of_lt (pow_le_pow_right₀ (by norm_num) small) greatestPower_lt
  obtain ⟨power, nearest, error⟩ :=
    Double.exists_nearest_of_one_le Nat.one_pos one notTooGreat false
  exact ⟨power, nearest, by rwa [same] at error⟩

theorem significand_pos {value : Double} (positive : 0 < value.magnitude) :
    0 < value.significand := by
  rw [Nat.pos_iff_ne_zero]
  intro zero
  rw [Double.magnitude, zero, Nat.cast_zero, zero_mul] at positive
  exact lt_irrefl _ positive

section Operations

variable {left right : Double} {limit : Nat}

theorem exists_over (half : 1 / 2 ≤ right.magnitude) (bound : left.magnitude ≤ 2 ^ limit)
    (inRange : limit + 1 ≤ 1000) :
    ∃ value, left.over? right = some value ∧ value.magnitude ≤ 2 ^ (limit + 2) := by
  obtain ⟨leftBottom, leftSame⟩ := left.quotient_spec
  obtain ⟨rightBottom, rightSame⟩ := right.quotient_spec
  have rightTop : 0 < right.quotient.1 :=
    Double.quotient_pos (significand_pos (by linarith))
  have same : ((left.quotient.1 * right.quotient.2 : Nat) /
      (left.quotient.2 * right.quotient.1 : Nat) : ℚ) =
      left.magnitude / right.magnitude := by
    rw [← leftSame, ← rightSame]
    push_cast
    rw [div_div_div_eq]
  refine Double.exists_nearest_of_le (Nat.mul_pos leftBottom rightTop) inRange ?_ left.negative
  rw [same, div_le_iff₀ (by linarith), pow_succ]
  have : (0 : ℚ) < 2 ^ limit := by positivity
  nlinarith

/-- Powers of ten are no less than a half as doubles. -/
theorem half_le_power {exponent : Nat} {power : Double}
    (error : |power.magnitude - 10 ^ exponent| ≤ (10 : ℚ) ^ exponent / 2 ^ 53) :
    1 / 2 ≤ power.magnitude := by
  have one : (1 : ℚ) ≤ 10 ^ exponent := one_le_pow₀ (by norm_num)
  rw [abs_le] at error
  linarith

theorem exists_lowered {value : Double} (bound : value.magnitude ≤ 2 ^ limit) (steps : Nat)
    (inRange : limit + 2 * steps ≤ 1000) :
    ∃ lower, lowered? value steps = some lower ∧ lower.magnitude ≤ 2 ^ (limit + 2 * steps) := by
  induction steps generalizing value limit with
  | zero => exact ⟨value, rfl, bound⟩
  | succ steps ih =>
    rw [lowered?]
    by_cases zero : value.significand = 0
    · refine ⟨value, if_pos zero, bound.trans (pow_le_pow_right₀ (by norm_num) (by omega))⟩
    · have exponent : limit + 2 + 2 * steps = limit + 2 * (steps + 1) := by omega
      obtain ⟨power, isPower, error⟩ := exists_powerOfTen (Nat.le_refl greatestPower)
      obtain ⟨once, isOnce, onceBound⟩ := exists_over (half_le_power error) bound (by omega)
      obtain ⟨lower, isLower, lowerBound⟩ := ih onceBound (by rwa [exponent])
      rw [exponent] at lowerBound
      refine ⟨lower, ?_, lowerBound⟩
      rw [if_neg zero, isPower, Option.bind_some, isOnce, Option.bind_some, isLower]

/-- A double that is not very great can be scaled down. -/
theorem exists_scaledDown {value : Double} (bound : value.magnitude ≤ 2 ^ 100) {exponent : Int}
    (negative : exponent < 0) (inRange : -1000 ≤ exponent) :
    ∃ read, scaleByTen value exponent = some read := by
  simp only [scaleByTen, if_pos negative, greatestPower]
  have parts := Nat.div_add_mod (exponent.natAbs - 1) 308
  have rest := Nat.mod_lt (exponent.natAbs - 1) (show 0 < 308 by decide)
  generalize (exponent.natAbs - 1) / 308 = steps at parts
  have few : steps ≤ 3 := by omega
  obtain ⟨lower, isLower, lowerBound⟩ := exists_lowered bound steps (by omega)
  obtain ⟨power, isPower, error⟩ := exists_powerOfTen
    (show exponent.natAbs - steps * 308 ≤ 308 by omega)
  obtain ⟨read, isRead, -⟩ := exists_over (half_le_power error) lowerBound (by omega)
  exact ⟨read, by rw [isLower, Option.bind_some, isPower, Option.bind_some, isRead]⟩

/-- A double can be scaled up when the product is not too great. -/
theorem exists_scaledUp {value : Double} {exponent : Nat} (small : exponent ≤ greatestPower)
    (positive : 0 < value.significand)
    (bound : value.magnitude * ((1 + 1 / 2 ^ 53) * 10 ^ exponent) <
      (2 ^ 53 - 1 / 2) * 2 ^ Double.greatestExponent) :
    ∃ read, scaleByTen value exponent = some read := by
  obtain ⟨power, isPower, error⟩ := exists_powerOfTen small
  obtain ⟨valueBottom, valueSame⟩ := value.quotient_spec
  obtain ⟨powerBottom, powerSame⟩ := power.quotient_spec
  have half := half_le_power error
  have powerTop : 0 < power.quotient.1 :=
    Double.quotient_pos (significand_pos (by linarith))
  have top := Nat.mul_pos (Double.quotient_pos positive) powerTop
  have bottom := Nat.mul_pos valueBottom powerBottom
  have same : ((value.quotient.1 * power.quotient.1 : Nat) /
      (value.quotient.2 * power.quotient.2 : Nat) : ℚ) =
      value.magnitude * power.magnitude := by
    rw [← valueSame, ← powerSame]
    push_cast
    rw [div_mul_div_comm]
  have notTooGreat : ((value.quotient.1 * power.quotient.1 : Nat) /
      (value.quotient.2 * power.quotient.2 : Nat) : ℚ) <
      (2 ^ 53 - 1 / 2) * 2 ^ Double.greatestExponent := by
    have magnitude : 0 ≤ value.magnitude := by
      rw [Double.magnitude]
      positivity
    rw [abs_le] at error
    rw [same]
    refine lt_of_le_of_lt (mul_le_mul_of_nonneg_left ?_ magnitude) bound
    linarith
  obtain ⟨read, isRead, -⟩ := Double.exists_nearest top bottom
    (Double.fits_fittingExponent top bottom) notTooGreat value.negative
  refine ⟨read, ?_⟩
  rw [scaleByTen, if_neg (by omega), Int.natAbs_natCast, if_pos small, isPower, Option.bind_some]
  exact isRead

end Operations

/-! ### The digits of a double -/

theorem double_lt_power : (2 : ℚ) ^ 53 * 2 ^ Double.greatestExponent < 10 ^ (309 : ℤ) := by
  have greatest : 2 ^ 1024 < 10 ^ 309 := by decide +kernel
  have cast := Nat.cast_lt (α := ℚ).mpr greatest
  simp only [Nat.cast_pow, Nat.cast_ofNat] at cast
  have power : (10 : ℚ) ^ (309 : ℤ) = 10 ^ 309 := zpow_natCast 10 309
  have unit : (2 : ℚ) ^ 53 * 2 ^ Double.greatestExponent = 2 ^ 1024 := by
    rw [← zpow_natCast, ← zpow_natCast, ← zpow_add₀ (by norm_num)]
    rfl
  exact (unit.trans_lt cast).trans_eq power.symm

theorem power_lt_double : (10 : ℚ) ^ 17 * 10 ^ (-1000 : ℤ) < 1 / 2 * 2 ^ Double.leastExponent := by
  have least : 2 ^ 1075 < 10 ^ 983 := by decide +kernel
  have cast := Nat.cast_lt (α := ℚ).mpr least
  simp only [Nat.cast_pow, Nat.cast_ofNat] at cast
  have power : (10 : ℚ) ^ 17 * 10 ^ (-1000 : ℤ) = (10 ^ 983)⁻¹ := by
    rw [← zpow_natCast, ← zpow_natCast, ← zpow_add₀ (by norm_num), ← zpow_neg]
    rfl
  have unit : (1 : ℚ) / 2 * 2 ^ Double.leastExponent = (2 ^ 1075)⁻¹ := by
    rw [one_div, ← zpow_neg_one, ← zpow_natCast, ← zpow_add₀ (by norm_num), ← zpow_neg]
    rfl
  exact (power.trans_lt (inv_strictAnti₀ (by positivity) cast)).trans_eq unit.symm

section Shortest

variable {value : Double} (proper : value.IsProper) (positive : 0 < value.significand)

include proper positive

theorem exponent_shortest_le : value.shortest.exponent ≤ 308 := by
  obtain ⟨some, -, error⟩ := Double.shortest_spec proper positive
  by_contra great
  have one : (1 : ℚ) ≤ value.shortest.coefficient := by exact_mod_cast some
  have power : (10 : ℚ) ^ (309 : ℤ) ≤ 10 ^ value.shortest.exponent :=
    zpow_le_zpow_right₀ (by norm_num) (by omega)
  have unit : (2 : ℚ) ^ value.exponent ≤ 2 ^ Double.greatestExponent :=
    zpow_le_zpow_right₀ (by norm_num) proper.greatest
  have small : (value.significand : ℚ) + 1 ≤ 2 ^ 53 := by exact_mod_cast proper.small
  have positiveUnit := zpow_pos (show (0 : ℚ) < 2 by norm_num) value.exponent
  have greatest := double_lt_power
  rw [abs_le, Scaled.magnitude, Double.magnitude] at error
  generalize (10 : ℚ) ^ (309 : ℤ) = tooGreat at *
  generalize (2 : ℚ) ^ Double.greatestExponent = bound at *
  generalize (10 : ℚ) ^ value.shortest.exponent = scale at *
  generalize (2 : ℚ) ^ value.exponent = step at *
  nlinarith

theorem le_exponent_shortest : -1000 ≤ value.shortest.exponent := by
  obtain ⟨-, most, error⟩ := Double.shortest_spec proper positive
  by_contra small
  have one : (1 : ℚ) ≤ value.significand := by exact_mod_cast positive
  have power : (10 : ℚ) ^ value.shortest.exponent ≤ 10 ^ (-1000 : ℤ) :=
    zpow_le_zpow_right₀ (by norm_num) (by omega)
  have unit : (2 : ℚ) ^ Double.leastExponent ≤ 2 ^ value.exponent :=
    zpow_le_zpow_right₀ (by norm_num) proper.least
  have positivePower := zpow_pos (show (0 : ℚ) < 10 by norm_num) value.shortest.exponent
  have most : (value.shortest.coefficient : ℚ) ≤ 10 ^ 17 := by exact_mod_cast most
  have least := power_lt_double
  rw [abs_le, Scaled.magnitude, Double.magnitude] at error
  generalize (10 : ℚ) ^ (-1000 : ℤ) = tooSmall at *
  generalize (2 : ℚ) ^ Double.leastExponent = bound at *
  generalize (10 : ℚ) ^ value.shortest.exponent = scale at *
  generalize (2 : ℚ) ^ value.exponent = step at *
  nlinarith

end Shortest

/-- The greatest doubles are read with an error of their own; their digits are computed. -/
theorem isSome_scaled_greatest (negative : Bool) {significand : Nat}
    (great : 2 ^ 53 - 4 < significand) (small : significand < 2 ^ 53) :
    ((Double.ofNat? negative (Double.mk negative significand 971).shortest.coefficient).bind
      (scaleByTen · (Double.mk negative significand 971).shortest.exponent)).isSome = true := by
  obtain rfl | rfl | rfl : significand = 2 ^ 53 - 3 ∨ significand = 2 ^ 53 - 2 ∨
      significand = 2 ^ 53 - 1 := by omega
  all_goals cases negative <;> decide +kernel

theorem exists_ofNat {coefficient : Nat} (notZero : 0 < coefficient) (most : coefficient ≤ 10 ^ 17)
    (negative : Bool) :
    ∃ start, Double.ofNat? negative coefficient = some start ∧
      |start.magnitude - coefficient| ≤ (coefficient : ℚ) / 2 ^ 53 := by
  have whole : (coefficient / (1 : Nat) : ℚ) = coefficient := by rw [Nat.cast_one, div_one]
  have one : (1 : ℚ) ≤ coefficient / (1 : Nat) := by
    rw [whole]
    exact_mod_cast notZero
  have notTooGreat : (coefficient / (1 : Nat) : ℚ) <
      (2 ^ 53 - 1 / 2) * 2 ^ Double.greatestExponent := by
    have most : (coefficient : ℚ) ≤ 10 ^ 17 := by exact_mod_cast most
    have power : (10 : ℚ) ^ 17 ≤ 10 ^ 308 := pow_le_pow_right₀ (by norm_num) (by decide)
    rw [whole]
    exact (most.trans power).trans_lt greatestPower_lt
  obtain ⟨start, isStart, error⟩ :=
    Double.exists_nearest_of_one_le Nat.one_pos one notTooGreat negative
  exact ⟨start, isStart, by rwa [whole] at error⟩

/-- The errors of reading digits and of a power of ten are small enough. -/
theorem exists_scaledUp_of_le {start : Double} {coefficient exponent : Nat}
    (small : exponent ≤ greatestPower) (notZero : 0 < coefficient)
    (error : |start.magnitude - coefficient| ≤ (coefficient : ℚ) / 2 ^ 53)
    (magnitude : (coefficient : ℚ) * 10 ^ exponent ≤
      (2 ^ 53 - 7 / 2) * 2 ^ Double.greatestExponent) :
    ∃ read, scaleByTen start exponent = some read := by
  have one : (1 : ℚ) ≤ coefficient := by exact_mod_cast notZero
  have unit := zpow_pos (show (0 : ℚ) < 2 by norm_num) Double.greatestExponent
  rw [abs_le] at error
  refine exists_scaledUp small (significand_pos (by linarith)) ?_
  have product : start.magnitude * 10 ^ exponent ≤
      (1 + 1 / 2 ^ 53) * ((2 ^ 53 - 7 / 2) * 2 ^ Double.greatestExponent) := by
    calc start.magnitude * 10 ^ exponent
        ≤ (1 + 1 / 2 ^ 53) * coefficient * 10 ^ exponent := by
          gcongr
          linarith
      _ = (1 + 1 / 2 ^ 53) * (coefficient * 10 ^ exponent) := mul_assoc _ _ _
      _ ≤ (1 + 1 / 2 ^ 53) * ((2 ^ 53 - 7 / 2) * 2 ^ Double.greatestExponent) := by gcongr
  linarith

section Shortest

variable {value : Double} (proper : value.IsProper) (positive : 0 < value.significand)

include proper positive

/-- The other doubles leave room for the errors of reading. -/
theorem magnitude_shortest_le
    (notGreatest : value.exponent = Double.greatestExponent → value.significand ≤ 2 ^ 53 - 4) :
    value.shortest.magnitude ≤ (2 ^ 53 - 7 / 2) * 2 ^ Double.greatestExponent := by
  obtain ⟨-, -, error⟩ := Double.shortest_spec proper positive
  have positiveUnit := zpow_pos (show (0 : ℚ) < 2 by norm_num) value.exponent
  rw [abs_le, Double.magnitude] at error
  rcases proper.greatest.lt_or_eq with less | same
  · have unit : (2 : ℚ) ^ (value.exponent + 1) ≤ 2 ^ Double.greatestExponent :=
      zpow_le_zpow_right₀ (by norm_num) less
    rw [zpow_add_one₀ (by norm_num)] at unit
    have small : (value.significand : ℚ) + 1 ≤ 2 ^ 53 := by exact_mod_cast proper.small
    generalize (2 : ℚ) ^ Double.greatestExponent = bound at *
    generalize (2 : ℚ) ^ value.exponent = step at *
    nlinarith
  · have small : (value.significand : ℚ) + 4 ≤ 2 ^ 53 := by
      have := notGreatest same
      have : value.significand + 4 ≤ 2 ^ 53 := by omega
      exact_mod_cast this
    rw [same] at error positiveUnit
    generalize (2 : ℚ) ^ Double.greatestExponent = bound at *
    nlinarith

/-- The digits of a double make up a number that is not too great to be read. -/
theorem exists_scaled_shortest :
    ∃ read, (Double.ofNat? value.negative value.shortest.coefficient).bind
      (scaleByTen · value.shortest.exponent) = some read := by
  obtain ⟨some, most, -⟩ := Double.shortest_spec proper positive
  by_cases greatest : value.exponent = Double.greatestExponent ∧ 2 ^ 53 - 4 < value.significand
  · obtain ⟨negative, significand, exponent⟩ := value
    obtain ⟨same, great⟩ := greatest
    dsimp only at same great
    subst same
    exact Option.isSome_iff_exists.mp (isSome_scaled_greatest negative great proper.small)
  · have magnitude := magnitude_shortest_le proper positive fun same =>
      Nat.le_of_not_lt fun great => greatest ⟨same, great⟩
    obtain ⟨start, isStart, error⟩ := exists_ofNat some most value.negative
    rw [isStart, Option.bind_some]
    rcases Int.lt_or_le value.shortest.exponent 0 with down | up
    · have most : (value.shortest.coefficient : ℚ) ≤ 10 ^ 17 := by exact_mod_cast most
      rw [abs_le] at error
      exact exists_scaledDown (by linarith) down (le_exponent_shortest proper positive)
    · have small := exponent_shortest_le proper positive
      obtain ⟨exponent, same⟩ := Int.eq_ofNat_of_zero_le up
      rw [Scaled.magnitude, same, zpow_natCast] at magnitude
      rw [same] at small ⊢
      exact exists_scaledUp_of_le (show exponent ≤ 308 by omega) some error magnitude

end Shortest

/-- A number of seventeen digits can be scaled down. -/
theorem exists_scaled_of_le {coefficient : Nat} (small : coefficient ≤ 10 ^ 17) (exponent : Int)
    (down : exponent < 0) (least : -1000 ≤ exponent) (negative : Bool) :
    ∃ read, (Double.ofNat? negative coefficient).bind (scaleByTen · exponent) = some read := by
  have bound : (coefficient / (1 : Nat) : ℚ) ≤ 2 ^ 57 := by
    have cast : (coefficient : ℚ) ≤ 10 ^ 17 := by exact_mod_cast small
    rw [Nat.cast_one, div_one]
    refine cast.trans ?_
    norm_num
  obtain ⟨start, isStart, startBound⟩ :=
    Double.exists_nearest_of_le Nat.one_pos (show 57 ≤ 1000 by decide) bound negative
  rw [Double.ofNat?, isStart, Option.bind_some]
  exact exists_scaledDown (startBound.trans (by norm_num)) down least

/-! ### Layouts -/

section Layouts

variable {negative : Bool} {read : Double} {after : List UInt8} (ends : EndsNumber after)

include ends

theorem gives_positional {whole fraction : List Char} (isWhole : IsWhole whole)
    (allDigits : ∀ c ∈ fraction, c.isDigit = true) (notEmpty : fraction ≠ [])
    (fits : valueOf (whole ++ fraction) ≤ greatestWord)
    (scaled : (Double.ofNat? negative (valueOf (whole ++ fraction))).bind
      (scaleByTen · (-fraction.length)) = some read) :
    Gives (readNumber negative (encode (whole ++ '.' :: fraction) ++ after)) (.double read)
      after := by
  rw [valueOf, Nat.ofDigitChars_append] at fits scaled
  rw [Text.Utf8.encode_append, List.append_assoc]
  refine gives_readNumber isWhole ((Decimal.le_ofDigitChars _ _).trans fits) ?_ ?_
  · rintro byte ⟨⟩
    decide
  · exact gives_point_iff.mpr (gives_readFraction allDigits notEmpty fits ends.noDigit
      (gives_readScaled ends scaled))

theorem gives_scientific {first : Char} {rest : List Char} (isWhole : IsWhole [first])
    (allDigits : ∀ c ∈ rest, c.isDigit = true)
    (fits : valueOf (first :: rest) ≤ greatestWord) {leading : Int}
    (inRange : leading.natAbs ≤ 10000) (few : rest.length ≤ 10000)
    (scaled : (Double.ofNat? negative (valueOf (first :: rest))).bind
      (scaleByTen · (leading - rest.length)) = some read) :
    Gives (readNumber negative (encode ((if rest = [] then [first] else first :: '.' :: rest) ++
      'e' :: exponentText leading) ++ after)) (.double read) after := by
  have start : valueOf [first] ≤ greatestWord := (Decimal.le_ofDigitChars rest _).trans fits
  have small : leading.natAbs ≤ greatestExponent := inRange.trans (by decide)
  have reads {significand : Nat} {exponent : Int}
      (few : exponent.natAbs ≤ 10000)
      (scaled : (Double.ofNat? negative significand).bind (scaleByTen · (exponent + leading)) =
        some read) :
      Gives
        (readScaled negative significand exponent (encode ('e' :: exponentText leading) ++ after))
        (.double read) after := by
    refine (gives_letter_iff (.inl rfl)).mpr (gives_readExponent ends small ?_ scaled)
    rw [clampExponent]
    have : greatestExponent = 2147483647 := rfl
    omega
  by_cases none : rest = []
  · subst none
    have total : leading - ([] : List Char).length = 0 + leading := by
      rw [List.length_nil]
      omega
    rw [total] at scaled
    rw [if_pos rfl, Text.Utf8.encode_append, List.append_assoc]
    refine gives_readNumber isWhole start ?_ ((gives_scaledInteger_iff (by decide) (.inl rfl)).mpr
      (reads (by decide) scaled))
    rintro byte ⟨⟩
    decide
  · have total : leading - rest.length = -rest.length + leading := by omega
    have value : valueOf (first :: rest) = Nat.ofDigitChars 10 rest (valueOf [first]) := rfl
    rw [total, value] at scaled
    rw [value] at fits
    have split : first :: '.' :: rest ++ 'e' :: exponentText leading =
        [first] ++ ('.' :: rest ++ 'e' :: exponentText leading) := rfl
    rw [if_neg none, split, Text.Utf8.encode_append, List.append_assoc, Text.Utf8.encode_append,
      List.append_assoc]
    refine gives_readNumber isWhole start ?_ (gives_point_iff.mpr
      (gives_readFraction allDigits none fits ?_ (reads (by omega) scaled)))
    · rintro byte ⟨⟩
      decide
    · rintro byte ⟨⟩
      decide

end Layouts

/-! ### Texts -/

/-- The text of a double behind its sign. -/
def magnitudeText (value : Double) : List Char :=
  if value.significand = 0 then ['0', '.', '0']
  else
    (if numberLayout.positional value.shortest.leading then Decimal.Layout.positionalText
      else Decimal.Layout.scientificText) value.shortest.digits value.shortest.leading

theorem text_eq (value : Double) :
    numberLayout.text value = (if value.negative then ['-'] else []) ++ magnitudeText value := by
  rw [Decimal.Layout.text, magnitudeText]
  split <;> rfl

/-- Digits that do not begin with a zero can stand before the point. -/
theorem isWhole_of_head {first : Char} (notZero : first ≠ '0') {digits : List Char}
    (allDigits : ∀ c ∈ digits, c.isDigit = true) (head : digits.head? = some first) :
    IsWhole digits where
  allDigits
  notEmpty := by
    rintro rfl
    cases head
  proper := fun zero => absurd (Option.some.inj (head.symm.trans zero)) notZero

theorem isDigit_zero : ∀ c ∈ ['0'], c.isDigit = true := by
  intro c member
  rw [List.mem_singleton.mp member]
  rfl

theorem isWhole_zero : IsWhole ['0'] where
  allDigits := isDigit_zero
  notEmpty := List.cons_ne_nil _ _
  proper := fun _ => rfl

section Digits

variable {decimal : Scaled} (positive : 0 < decimal.coefficient)
  (small : decimal.coefficient ≤ 10 ^ 17)

include positive in
theorem exists_digits : ∃ first rest, decimal.digits = first :: rest ∧ first ≠ '0' := by
  cases digits : decimal.digits with
  | nil => exact absurd digits Nat.toDigits_ne_nil
  | cons first rest =>
    refine ⟨first, rest, rfl, ?_⟩
    rintro rfl
    exact positive.ne' (Decimal.head?_toDigits (by rw [← Scaled.digits, digits]; rfl))

theorem isDigit_digits (decimal : Scaled) : ∀ c ∈ decimal.digits, c.isDigit = true :=
  fun _ => Decimal.isDigit_of_mem

include small in
theorem length_digits_le : decimal.digits.length ≤ 18 :=
  (Nat.length_toDigits_le_iff (by decide) (by decide)).mpr (by omega)

include small in
/-- Behind a zero and the point. -/
theorem gives_belowOne {negative : Bool} (zeros : Nat) (few : zeros ≤ 100) :
    ∃ read, ∀ after, EndsNumber after →
      Gives (readNumber negative
        (encode (['0'] ++ '.' :: (List.replicate zeros '0' ++ decimal.digits)) ++ after))
        (.double read) after := by
  have length := length_digits_le small
  have some : 0 < decimal.digits.length := Nat.length_toDigits_pos
  have value : valueOf (['0'] ++ (List.replicate zeros '0' ++ decimal.digits)) =
      decimal.coefficient := by
    rw [Decimal.valueOf_append, Decimal.valueOf_append, Decimal.valueOf_zeros, Scaled.digits,
      Decimal.valueOf_toDigits, Nat.mul_zero, Nat.zero_add]
    exact Nat.zero_add _
  have count :
      (List.replicate zeros '0' ++ decimal.digits).length = zeros + decimal.digits.length := by
    rw [List.length_append, List.length_replicate]
  obtain ⟨read, scaled⟩ := exists_scaled_of_le small
    (-(List.replicate zeros '0' ++ decimal.digits).length) (by omega) (by omega) negative
  refine ⟨read, fun after ends => gives_positional ends isWhole_zero ?_ ?_ ?_ ?_⟩
  · intro c member
    rcases List.mem_append.mp member with zero | digit
    · rw [List.eq_of_mem_replicate zero]
      decide
    · exact isDigit_digits _ c digit
  · rw [← List.length_pos_iff]
    omega
  · rw [value]
    exact small.trans (by decide)
  · rw [value]
    exact scaled

include positive small in
/-- With more digits than stand before the point. -/
theorem gives_split {negative : Bool} {count : Nat} (some : 0 < count)
    (less : count < decimal.digits.length) :
    ∃ read, ∀ after, EndsNumber after →
      Gives (readNumber negative
        (encode (decimal.digits.take count ++ '.' :: decimal.digits.drop count) ++ after))
        (.double read) after := by
  obtain ⟨first, rest, digits, notZero⟩ := exists_digits positive
  have length := length_digits_le small
  have value : valueOf (decimal.digits.take count ++ decimal.digits.drop count) =
      decimal.coefficient := by
    rw [List.take_append_drop]
    exact Decimal.valueOf_toDigits _
  have left : (decimal.digits.drop count).length = decimal.digits.length - count := List.length_drop
  obtain ⟨read, scaled⟩ := exists_scaled_of_le small
    (-(decimal.digits.drop count).length) (by omega) (by omega) negative
  refine ⟨read, fun after ends =>
    gives_positional ends (isWhole_of_head notZero ?_ ?_) ?_ ?_ ?_ ?_⟩
  · exact fun c member => isDigit_digits _ c (List.mem_of_mem_take member)
  · obtain ⟨more, rfl⟩ := Nat.exists_eq_succ_of_ne_zero some.ne'
    rw [digits]
    rfl
  · exact fun c member => isDigit_digits _ c (List.mem_of_mem_drop member)
  · rw [← List.length_pos_iff]
    omega
  · rw [value]
    exact small.trans (by decide)
  · rw [value]
    exact scaled

include positive in
/-- With zeros behind the digits, and a zero behind the point. -/
theorem gives_whole {negative : Bool} (zeros : Nat)
    (few : decimal.digits.length + zeros ≤ 16) :
    ∃ read, ∀ after, EndsNumber after →
      Gives (readNumber negative
        (encode ((decimal.digits ++ List.replicate zeros '0') ++ '.' :: ['0']) ++ after))
        (.double read) after := by
  obtain ⟨first, rest, digits, notZero⟩ := exists_digits positive
  have value : valueOf ((decimal.digits ++ List.replicate zeros '0') ++ ['0']) =
      decimal.coefficient * 10 ^ (zeros + 1) := by
    rw [Decimal.valueOf_append, Decimal.valueOf_append, Decimal.valueOf_zeros, Scaled.digits,
      Decimal.valueOf_toDigits, List.length_replicate, pow_succ]
    change 10 ^ 1 * _ + 0 = _
    ring
  have bound : decimal.coefficient * 10 ^ (zeros + 1) ≤ 10 ^ 17 := by
    have less := (Decimal.length_toDigits_bounds positive).2
    calc decimal.coefficient * 10 ^ (zeros + 1)
        ≤ 10 ^ decimal.digits.length * 10 ^ (zeros + 1) := Nat.mul_le_mul_right _ less.le
      _ = 10 ^ (decimal.digits.length + zeros + 1) := by rw [← pow_add, Nat.add_assoc]
      _ ≤ 10 ^ 17 := Nat.pow_le_pow_right (by decide) (by omega)
  obtain ⟨read, scaled⟩ := exists_scaled_of_le bound (-(['0'].length : Nat)) (by decide)
    (by decide) negative
  refine ⟨read, fun after ends => gives_positional ends (isWhole_of_head notZero ?_ ?_)
    isDigit_zero (List.cons_ne_nil _ _) ?_ ?_⟩
  · intro c member
    rcases List.mem_append.mp member with digit | zero
    · exact isDigit_digits _ c digit
    · rw [List.eq_of_mem_replicate zero]
      decide
  · rw [digits]
    rfl
  · rw [value]
    exact bound.trans (by decide)
  · rw [value]
    exact scaled

theorem positionalText_of_lt {digits : List Char} {leading : Int} (below : leading < 0) :
    Decimal.Layout.positionalText digits leading =
      ['0'] ++ '.' :: (List.replicate (-leading - 1).toNat '0' ++ digits) := by
  rw [Decimal.Layout.positionalText, if_pos below]
  rfl

theorem positionalText_of_length_lt {digits : List Char} {leading : Int} (above : ¬ leading < 0)
    (more : leading.toNat + 1 < digits.length) :
    Decimal.Layout.positionalText digits leading =
      digits.take (leading.toNat + 1) ++ '.' :: digits.drop (leading.toNat + 1) := by
  have none : leading.toNat + 1 - digits.length = 0 := by omega
  have notEmpty : digits.drop (leading.toNat + 1) ≠ [] := by
    rw [Ne, List.drop_eq_nil_iff]
    omega
  rw [Decimal.Layout.positionalText, if_neg above]
  simp only [none, List.replicate_zero, List.append_nil, if_neg notEmpty]

theorem positionalText_of_length_le {digits : List Char} {leading : Int} (above : ¬ leading < 0)
    (few : digits.length ≤ leading.toNat + 1) :
    Decimal.Layout.positionalText digits leading =
      (digits ++ List.replicate (leading.toNat + 1 - digits.length) '0') ++ '.' :: ['0'] := by
  have length : (digits ++ List.replicate (leading.toNat + 1 - digits.length) '0').length ≤
      leading.toNat + 1 := by
    rw [List.length_append, List.length_replicate]
    omega
  rw [Decimal.Layout.positionalText, if_neg above]
  simp only [List.take_of_length_le length, List.drop_of_length_le length, if_true]

include positive small in
theorem gives_positionalText {negative : Bool} (low : -5 ≤ decimal.leading)
    (high : decimal.leading ≤ 15) :
    ∃ read, ∀ after, EndsNumber after →
      Gives (readNumber negative
        (encode (Decimal.Layout.positionalText decimal.digits decimal.leading) ++ after))
        (.double read) after := by
  by_cases below : decimal.leading < 0
  · rw [positionalText_of_lt below]
    exact gives_belowOne small _ (by omega)
  · by_cases more : decimal.leading.toNat + 1 < decimal.digits.length
    · rw [positionalText_of_length_lt below more]
      exact gives_split positive small (Nat.succ_pos _) more
    · rw [positionalText_of_length_le below (Nat.le_of_not_lt more)]
      exact gives_whole positive _ (by omega)

theorem scientificText_eq (first : Char) (rest : List Char) (leading : Int) :
    Decimal.Layout.scientificText (first :: rest) leading =
      (if rest = [] then [first] else first :: '.' :: rest) ++ 'e' :: exponentText leading := by
  cases rest <;> rfl

include positive small in
theorem gives_scientificText {negative : Bool} (inRange : decimal.exponent.natAbs ≤ 1000)
    {read : Double}
    (scaled : (Double.ofNat? negative decimal.coefficient).bind
      (scaleByTen · decimal.exponent) = some read) {after : List UInt8} (ends : EndsNumber after) :
    Gives (readNumber negative
      (encode (Decimal.Layout.scientificText decimal.digits decimal.leading) ++ after))
      (.double read) after := by
  obtain ⟨first, rest, digits, notZero⟩ := exists_digits positive
  have length := length_digits_le small
  have leading : decimal.leading = decimal.exponent + decimal.digits.length - 1 := rfl
  have allDigits := isDigit_digits decimal
  have value : valueOf decimal.digits = decimal.coefficient := Decimal.valueOf_toDigits _
  rw [digits, List.length_cons] at length leading
  rw [digits] at allDigits value
  have fits : decimal.coefficient ≤ greatestWord := small.trans (by decide)
  have total : decimal.leading - rest.length = decimal.exponent := by omega
  rw [digits, scientificText_eq]
  refine gives_scientific ends (isWhole_of_head notZero ?_ rfl)
    (fun c member => allDigits c (List.mem_cons_of_mem _ member)) (by rwa [value]) (by omega)
    (by omega) (by rwa [value, total])
  intro c member
  rw [List.mem_singleton.mp member]
  exact allDigits first List.mem_cons_self

end Digits

/-- A finite double is read as a double. -/
theorem gives_magnitudeText {value : Double} (proper : value.IsProper) :
    ∃ read, ∀ after, EndsNumber after →
      Gives (readNumber value.negative (encode (magnitudeText value) ++ after)) (.double read)
        after := by
  rw [magnitudeText]
  by_cases zero : value.significand = 0
  · rw [if_pos zero]
    obtain ⟨read, scaled⟩ := exists_scaled_of_le (Nat.zero_le _) (-(['0'].length : Nat))
      (by decide) (by decide) value.negative
    exact ⟨read, fun after ends => gives_positional ends isWhole_zero isDigit_zero
      (List.cons_ne_nil _ _) (Nat.zero_le _) scaled⟩
  · rw [if_neg zero]
    have positive := Nat.pos_of_ne_zero zero
    obtain ⟨some, small, -⟩ := Double.shortest_spec proper positive
    by_cases positional : numberLayout.positional value.shortest.leading = true
    · rw [if_pos positional]
      simp only [numberLayout, Bool.and_eq_true, decide_eq_true_eq] at positional
      exact gives_positionalText some small positional.1 positional.2
    · rw [if_neg positional]
      obtain ⟨read, scaled⟩ := exists_scaled_shortest proper positive
      have least := le_exponent_shortest proper positive
      have greatest := exponent_shortest_le proper positive
      exact ⟨read, fun after ends => gives_scientificText some small (by omega) scaled ends⟩

end ScanMerge.Json
