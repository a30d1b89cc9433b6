import ScanMerge.Decimal.Shortest
import ScanMerge.Proofs.DecimalDigits
import ScanMerge.Proofs.RoundedDoubles
import Mathlib.Data.Nat.Cast.Order.Field

/-!
The shortest decimal of a double. Seventeen digits always read back: the decimal numbers of that
many digits lie closer together than doubles do, so the one nearest to a double is rounded to it.
-/

set_option autoImplicit false

namespace ScanMerge.Decimal

/-! ### Decimal numbers -/

namespace Scaled

def magnitude (value : Scaled) : ℚ :=
  value.coefficient * 10 ^ value.exponent

theorem quotient_spec (value : Scaled) :
    0 < value.quotient.2 ∧ (value.quotient.1 : ℚ) / value.quotient.2 = value.magnitude := by
  obtain ⟨coefficient, exponent⟩ := value
  rw [quotient, magnitude]
  dsimp only
  split
  · next upward =>
    obtain ⟨power, rfl⟩ := Int.eq_ofNat_of_zero_le upward
    refine ⟨Nat.one_pos, ?_⟩
    rw [Int.toNat_natCast, zpow_natCast]
    push_cast [Nat.pow_eq]
    exact div_one _
  · next downward =>
    obtain ⟨power, rfl⟩ : ∃ power : Nat, exponent = -power := ⟨exponent.natAbs, by omega⟩
    refine ⟨Nat.pow_pos (by decide), ?_⟩
    rw [neg_neg, Int.toNat_natCast, zpow_neg, zpow_natCast, div_eq_mul_inv]
    push_cast [Nat.pow_eq]
    rfl

end Scaled

namespace Double

theorem quotient_spec (value : Double) :
    0 < value.quotient.2 ∧ (value.quotient.1 : ℚ) / value.quotient.2 = value.magnitude := by
  obtain ⟨bottom, same⟩ := scaled_spec Nat.one_pos value.significand (-value.exponent)
  refine ⟨bottom, same.trans ?_⟩
  rw [Nat.cast_one, div_one, zpow_neg, div_inv_eq_mul, magnitude]

theorem quotient_pos {value : Double} (positive : 0 < value.significand) :
    0 < value.quotient.1 := by
  obtain ⟨bottom, same⟩ := value.quotient_spec
  rw [Nat.pos_iff_ne_zero]
  intro zero
  rw [zero, Nat.cast_zero, zero_div, magnitude] at same
  have : (0 : ℚ) < value.significand * 2 ^ value.exponent := by positivity
  exact this.ne same

section Exponent

variable {numerator denominator : Nat} (above : 0 < numerator) (positive : 0 < denominator)

include positive in
theorem decimalExponent_of_le (order : denominator ≤ numerator) :
    10 ^ decimalExponent numerator denominator ≤ (numerator / denominator : ℚ) ∧
      (numerator / denominator : ℚ) < 10 ^ (decimalExponent numerator denominator + 1) := by
  have bottom : (0 : ℚ) < denominator := Nat.cast_pos.mpr positive
  obtain ⟨least, greatest⟩ := length_toDigits_bounds (Nat.div_pos order positive)
  have some : 0 < (Nat.toDigits 10 (numerator / denominator)).length := Nat.length_toDigits_pos
  rw [decimalExponent, if_pos order]
  generalize (Nat.toDigits 10 (numerator / denominator)).length = length at least greatest some
  have exponent : (length : ℤ) - 1 = (length - 1 : Nat) := by omega
  rw [Nat.le_div_iff_mul_le positive] at least
  rw [Nat.div_lt_iff_lt_mul positive] at greatest
  rw [Int.sub_add_cancel, exponent, zpow_natCast, zpow_natCast, le_div_iff₀ bottom,
    div_lt_iff₀ bottom]
  exact ⟨by exact_mod_cast least, by exact_mod_cast greatest⟩

include above positive in
/-- Below one the digits of the inverse count, and an exact power of ten is a case of its own. -/
theorem decimalExponent_of_lt (order : ¬ denominator ≤ numerator) :
    10 ^ decimalExponent numerator denominator ≤ (numerator / denominator : ℚ) ∧
      (numerator / denominator : ℚ) < 10 ^ (decimalExponent numerator denominator + 1) := by
  have bottom : (0 : ℚ) < denominator := Nat.cast_pos.mpr positive
  obtain ⟨least, greatest⟩ := length_toDigits_bounds (Nat.div_pos (Nat.le_of_not_le order) above)
  have some : 0 < (Nat.toDigits 10 (denominator / numerator)).length := Nat.length_toDigits_pos
  rw [decimalExponent, if_neg order]
  dsimp only
  generalize (Nat.toDigits 10 (denominator / numerator)).length = length at least greatest some
  rw [Nat.le_div_iff_mul_le above] at least
  rw [Nat.div_lt_iff_lt_mul above] at greatest
  have leastCast : (10 : ℚ) ^ (length - 1) * numerator ≤ denominator := by exact_mod_cast least
  have greatestCast : (denominator : ℚ) < 10 ^ length * numerator := by exact_mod_cast greatest
  have first : (0 : ℚ) < 10 ^ (length - 1) := by positivity
  have inverse {power : ℚ} (isPositive : 0 < power) :
      power⁻¹ ≤ (numerator / denominator : ℚ) ↔ (denominator : ℚ) ≤ power * numerator := by
    rw [le_div_iff₀ bottom, inv_mul_le_iff₀ isPositive]
  split
  · next exact =>
    have exactCast : (denominator : ℚ) ≤ 10 ^ (length - 1) * numerator := by
      rw [mul_comm]
      exact_mod_cast exact
    have exponent : 1 - (length : ℤ) = -(length - 1 : Nat) := by omega
    rw [exponent, zpow_add_one₀ (by norm_num), zpow_neg, zpow_natCast]
    refine ⟨(inverse first).mpr exactCast, ?_⟩
    have most : (numerator / denominator : ℚ) ≤ (10 ^ (length - 1))⁻¹ := by
      rw [div_le_iff₀ bottom, ← div_eq_inv_mul, le_div_iff₀ first, mul_comm]
      exact leastCast
    have some := inv_pos.mpr first
    linarith
  · next below =>
    have belowCast : (10 : ℚ) ^ (length - 1) * numerator < denominator := by
      rw [mul_comm]
      exact_mod_cast Nat.lt_of_not_le below
    have exponent : -(length : ℤ) + 1 = -(length - 1 : Nat) := by omega
    rw [exponent, zpow_neg, zpow_neg, zpow_natCast, zpow_natCast]
    refine ⟨(inverse (by positivity)).mpr greatestCast.le, ?_⟩
    rw [← not_le, inverse first, not_le]
    exact belowCast

include above positive in
/-- The first digit of a quotient has the exponent that is computed for it. -/
theorem decimalExponent_spec :
    10 ^ decimalExponent numerator denominator ≤ (numerator / denominator : ℚ) ∧
      (numerator / denominator : ℚ) < 10 ^ (decimalExponent numerator denominator + 1) := by
  by_cases order : denominator ≤ numerator
  · exact decimalExponent_of_le positive order
  · exact decimalExponent_of_lt above positive order

end Exponent

/-! ### Decimal neighbours -/

/-- A quotient lies between its decimal neighbours, which are one unit apart. -/
theorem neighbours_spec {denominator : Nat} (positive : 0 < denominator) (numerator : Nat)
    (exponent : Int) :
    ∃ count : Nat,
      neighbours numerator denominator exponent = (⟨count, exponent⟩, ⟨count + 1, exponent⟩) ∧
      count * 10 ^ exponent ≤ (numerator / denominator : ℚ) ∧
      (numerator / denominator : ℚ) < (count + 1) * 10 ^ exponent := by
  have between {top bottom : Nat} (someBottom : 0 < bottom)
      (same : (top / bottom : ℚ) = numerator / denominator / 10 ^ exponent) :
      (top / bottom : Nat) * 10 ^ exponent ≤ (numerator / denominator : ℚ) ∧
        (numerator / denominator : ℚ) < ((top / bottom : Nat) + 1) * 10 ^ exponent := by
    have power := zpow_pos (show (0 : ℚ) < 10 by norm_num) exponent
    rw [← le_div_iff₀ power, ← div_lt_iff₀ power, ← same]
    refine ⟨Nat.cast_div_le, ?_⟩
    rw [div_lt_iff₀ (Nat.cast_pos.mpr someBottom)]
    exact_mod_cast (Nat.div_lt_iff_lt_mul someBottom).mp (Nat.lt_succ_self (top / bottom))
  rw [neighbours]
  by_cases upward : 0 ≤ exponent
  · rw [if_pos upward]
    obtain ⟨power, rfl⟩ := Int.eq_ofNat_of_zero_le upward
    refine ⟨_, rfl, between (Nat.mul_pos positive (Nat.pow_pos (by decide))) ?_⟩
    rw [Int.toNat_natCast, zpow_natCast, div_div]
    push_cast [Nat.pow_eq]
    rfl
  · rw [if_neg upward]
    obtain ⟨power, rfl⟩ : ∃ power : Nat, exponent = -power := ⟨exponent.natAbs, by omega⟩
    refine ⟨_, rfl, between positive ?_⟩
    rw [neg_neg, Int.toNat_natCast, zpow_neg, zpow_natCast, div_inv_eq_mul, div_mul_eq_mul_div]
    push_cast [Nat.pow_eq]
    rfl

/-- A decimal number that is away from a double by half of a unit in the seventeenth digit at most
is rounded to it. -/
theorem readsBack_of_close {value : Double} (proper : value.IsProper)
    (positive : 0 < value.significand) {decimal : Scaled} {step : ℚ}
    (fine : step ≤ value.magnitude / 10 ^ 16)
    (close : |decimal.magnitude - value.magnitude| ≤ step / 2) :
    value.readsBack decimal = true := by
  obtain ⟨bottom, same⟩ := decimal.quotient_spec
  have power := zpow_pos (show (0 : ℚ) < 2 by norm_num) value.exponent
  have one : (1 : ℚ) ≤ value.significand := by exact_mod_cast positive
  have most : (value.significand : ℚ) ≤ 2 ^ 53 := by exact_mod_cast proper.small.le
  have unit : step < 2 ^ value.exponent := by
    rw [magnitude] at fine
    nlinarith
  rw [abs_le, magnitude] at close
  have lower : (value.significand - 1 / 2) * 2 ^ value.exponent <
      (decimal.quotient.1 / decimal.quotient.2 : ℚ) := by
    rw [same]
    linarith
  have above : 0 < decimal.quotient.1 := by
    have some : (0 : ℚ) < decimal.quotient.1 / decimal.quotient.2 :=
      lt_trans (mul_pos (by linarith) power) lower
    rw [div_pos_iff_of_pos_right (Nat.cast_pos.mpr bottom)] at some
    exact_mod_cast some
  rw [readsBack, decide_eq_true_eq]
  refine nearest?_eq_some proper above bottom lower ?_ fun least => ?_
  · rw [same]
    linarith
  · rw [magnitude, least] at fine
    rw [same]
    push_cast at fine
    linarith

/-- The decimal numbers of `count` digits around a double are `below` and one more, in units of ten
to the exponent. -/
structure Surrounds (value : Double) (count below : Nat) (exponent : Int) : Prop where
  low : below * 10 ^ exponent ≤ value.magnitude
  high : value.magnitude < (below + 1) * 10 ^ exponent
  fine : 10 ^ exponent * 10 ^ count ≤ 10 * value.magnitude
  coarse : value.magnitude < 10 ^ exponent * 10 ^ count

/-- What reads back of the decimal numbers around a double is chosen from. -/
theorem exists_surrounds {value : Double} (positive : 0 < value.significand) (count : Nat) :
    ∃ below exponent, value.Surrounds count below exponent ∧
      (∀ decimal, value.withDigits? count = some decimal →
        value.readsBack decimal = true ∧ decimal.coefficient ≤ below + 1) ∧
      (value.withDigits? count = none → value.readsBack ⟨below, exponent⟩ = false ∧
        value.readsBack ⟨below + 1, exponent⟩ = false) := by
  obtain ⟨bottom, same⟩ := value.quotient_spec
  obtain ⟨least, greatest⟩ := decimalExponent_spec (quotient_pos positive) bottom
  obtain ⟨below, found, low, high⟩ := neighbours_spec bottom value.quotient.1
    (decimalExponent value.quotient.1 value.quotient.2 - count + 1)
  rw [same] at low high least greatest
  have ten : (10 : ℚ) ≠ 0 := by norm_num
  have exponent : decimalExponent value.quotient.1 value.quotient.2 - count + 1 + count =
      decimalExponent value.quotient.1 value.quotient.2 + 1 := by omega
  refine ⟨below, _, ⟨low, high, ?_, ?_⟩, ?_⟩
  · rw [← zpow_natCast, ← zpow_add₀ ten, exponent, zpow_add_one₀ ten]
    linarith
  · rw [← zpow_natCast, ← zpow_add₀ ten, exponent]
    exact greatest
  · rw [withDigits?]
    simp only [found]
    generalize decimalExponent value.quotient.1 value.quotient.2 - count + 1 = unit
    generalize isNearerAbove value.quotient.1 value.quotient.2 unit = nearer
    cases lowBack : value.readsBack ⟨below, unit⟩ <;>
      cases highBack : value.readsBack ⟨below + 1, unit⟩ <;> cases nearer <;>
      simp [lowBack, highBack]

theorem withDigits?_seventeen {value : Double} (proper : value.IsProper)
    (positive : 0 < value.significand) : (value.withDigits? 17).isSome = true := by
  obtain ⟨below, exponent, surrounds, -, unread⟩ := exists_surrounds positive 17
  obtain ⟨low, high, fine, -⟩ := surrounds
  have step : (10 : ℚ) ^ exponent ≤ value.magnitude / 10 ^ 16 := by
    rw [le_div_iff₀ (by norm_num)]
    linarith
  by_contra missing
  obtain ⟨lowUnread, highUnread⟩ := unread (Option.not_isSome_iff_eq_none.mp missing)
  rcases le_total (value.magnitude - below * 10 ^ exponent) (10 ^ exponent / 2) with near | far
  · have back : value.readsBack ⟨below, exponent⟩ = true := by
      refine readsBack_of_close proper positive step ?_
      rw [Scaled.magnitude, abs_le]
      constructor <;> linarith
    exact Bool.false_ne_true (lowUnread.symm.trans back)
  · have back : value.readsBack ⟨below + 1, exponent⟩ = true := by
      refine readsBack_of_close proper positive step ?_
      rw [Scaled.magnitude, abs_le]
      push_cast
      constructor <;> linarith
    exact Bool.false_ne_true (highUnread.symm.trans back)

theorem withDigits?_spec {value : Double} (positive : 0 < value.significand) {count : Nat}
    {decimal : Scaled} (found : value.withDigits? count = some decimal) :
    value.readsBack decimal = true ∧ decimal.coefficient ≤ 10 ^ count := by
  obtain ⟨below, exponent, surrounds, reads, -⟩ := exists_surrounds positive count
  obtain ⟨back, bound⟩ := reads decimal found
  have power := zpow_pos (show (0 : ℚ) < 10 by norm_num) exponent
  have small : below < 10 ^ count := by
    have : (below : ℚ) * 10 ^ exponent < 10 ^ count * 10 ^ exponent := by
      linarith [surrounds.low, surrounds.coarse]
    exact_mod_cast lt_of_mul_lt_mul_right this power.le
  exact ⟨back, bound.trans small⟩

/-! ### The shortest decimal number -/

theorem trimmed_spec {value : Scaled} (positive : 0 < value.coefficient) :
    0 < value.trimmed.coefficient ∧ value.trimmed.coefficient ≤ value.coefficient ∧
      value.trimmed.magnitude = value.magnitude := by
  obtain ⟨rest, some, same⟩ := trailingZeros positive
  obtain ⟨coefficient, exponent⟩ := value
  rw [Scaled.trimmed, Scaled.digits]
  dsimp only at same positive ⊢
  generalize ((Nat.toDigits 10 coefficient).reverse.takeWhile (· = '0')).length = zeros at same
  subst same
  have quotient : rest * 10 ^ zeros / Nat.pow 10 zeros = rest :=
    Nat.mul_div_cancel rest (Nat.pow_pos (by decide))
  rw [quotient]
  refine ⟨some, Nat.le_mul_of_pos_right rest (Nat.pow_pos (by decide)), ?_⟩
  rw [Scaled.magnitude, Scaled.magnitude]
  dsimp only
  rw [zpow_add₀ (by norm_num), zpow_natCast]
  push_cast
  ring

/-- The shortest decimal number of a double has seventeen digits at most and is away from the double
by half of its unit at most. -/
theorem shortest_spec {value : Double} (proper : value.IsProper)
    (positive : 0 < value.significand) :
    0 < value.shortest.coefficient ∧ value.shortest.coefficient ≤ 10 ^ 17 ∧
      |value.magnitude - value.shortest.magnitude| ≤ 1 / 2 * 2 ^ value.exponent := by
  have some :
      ((List.range 17).findSome? fun count => value.withDigits? (count + 1)).isSome = true :=
    List.findSome?_isSome_iff.mpr ⟨16, by decide, withDigits?_seventeen proper positive⟩
  obtain ⟨decimal, found⟩ := Option.isSome_iff_exists.mp some
  obtain ⟨count, member, digits⟩ := List.exists_of_findSome?_eq_some found
  obtain ⟨back, bound⟩ := withDigits?_spec positive digits
  rw [readsBack, decide_eq_true_eq] at back
  obtain ⟨bottom, magnitude⟩ := decimal.quotient_spec
  have top : 0 < decimal.quotient.1 := by
    rw [Nat.pos_iff_ne_zero]
    intro zero
    rw [zero] at back
    exact positive.ne (congrArg significand (Option.some.inj back))
  have notZero : 0 < decimal.coefficient := by
    rw [Nat.pos_iff_ne_zero]
    intro zero
    rw [Scaled.magnitude, zero, Nat.cast_zero, zero_mul, div_eq_zero_iff] at magnitude
    have := Nat.cast_pos (α := ℚ).mpr top
    have := Nat.cast_pos (α := ℚ).mpr bottom
    rcases magnitude with none | none <;> linarith
  obtain ⟨someLeft, notMore, same⟩ := trimmed_spec notZero
  rw [shortest, found, Option.getD_some]
  refine ⟨someLeft, notMore.trans (bound.trans (Nat.pow_le_pow_right (by decide) ?_)), ?_⟩
  · have := List.mem_range.mp member
    omega
  · rw [same, ← magnitude]
    exact abs_magnitude_sub top bottom back

end Double

end ScanMerge.Decimal
