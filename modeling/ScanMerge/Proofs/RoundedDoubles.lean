import ScanMerge.Decimal.Double
import Mathlib.Algebra.Order.Field.Basic
import Mathlib.Algebra.Order.Field.Power
import Mathlib.Data.Rat.Cast.Order
import Mathlib.Tactic.Linarith
import Mathlib.Tactic.Ring

/-!
Rounding to doubles. The double nearest to a quotient is found by the exponent at which the quotient
fills a significand. What lies closer to a double than half of the way to its neighbours is rounded
to it, and a quotient that is not too great is rounded by half a unit of the result at most.
-/

set_option autoImplicit false

namespace ScanMerge.Decimal

theorem abs_roundDiv_sub {denominator : Nat} (positive : 0 < denominator) (numerator : Nat) :
    |(roundDiv numerator denominator : ℚ) - numerator / denominator| ≤ 1 / 2 := by
  have bottom : (0 : ℚ) < denominator := Nat.cast_pos.mpr positive
  have parts : (numerator : ℚ) / denominator =
      (numerator / denominator : Nat) + (numerator % denominator : Nat) / denominator := by
    rw [eq_comm, ← eq_sub_iff_add_eq', eq_comm, div_sub' bottom.ne', div_left_inj' bottom.ne']
    have whole : (denominator : ℚ) * (numerator / denominator : Nat) +
        (numerator % denominator : Nat) =
        numerator := by
      exact_mod_cast Nat.div_add_mod numerator denominator
    linarith
  rw [parts, roundDiv, abs_le]
  split
  · next up =>
    have half : (denominator : ℚ) ≤ 2 * (numerator % denominator : Nat) := by
      exact_mod_cast up.elim Nat.le_of_lt fun tie => Nat.le_of_eq tie.1
    have below : ((numerator % denominator : Nat) : ℚ) ≤ denominator := by
      exact_mod_cast (Nat.mod_lt _ positive).le
    have least : 1 / 2 ≤ ((numerator % denominator : Nat) : ℚ) / denominator := by
      rw [le_div_iff₀ bottom]
      linarith
    have most : ((numerator % denominator : Nat) : ℚ) / denominator ≤ 1 := by
      rw [div_le_one bottom]
      exact below
    push_cast at least most ⊢
    constructor <;> linarith
  · next down =>
    rw [not_or] at down
    have half : 2 * ((numerator % denominator : Nat) : ℚ) ≤ denominator := by
      exact_mod_cast Nat.not_lt.mp down.1
    have most : ((numerator % denominator : Nat) : ℚ) / denominator ≤ 1 / 2 := by
      rw [div_le_iff₀ bottom]
      linarith
    have least : 0 ≤ ((numerator % denominator : Nat) : ℚ) / denominator := by positivity
    constructor <;> linarith

/-- A whole number less than half away is what the quotient is rounded to. -/
theorem roundDiv_eq {denominator : Nat} (positive : 0 < denominator) {numerator whole : Nat}
    (close : |(numerator : ℚ) / denominator - whole| < 1 / 2) :
    roundDiv numerator denominator = whole := by
  have half := abs_roundDiv_sub positive numerator
  have near : |((roundDiv numerator denominator : ℤ) - whole : ℚ)| < 1 := by
    rw [abs_le] at half
    rw [abs_lt] at close ⊢
    push_cast
    constructor <;> linarith
  have equal : (roundDiv numerator denominator : ℤ) - whole = 0 := by
    rw [← Int.abs_lt_one_iff]
    exact_mod_cast near
  omega

namespace Double

/-- The magnitude of a double. -/
def magnitude (value : Double) : ℚ :=
  value.significand * 2 ^ value.exponent

theorem scaled_spec {denominator : Nat} (positive : 0 < denominator) (numerator : Nat)
    (exponent : Int) :
    0 < (scaled numerator denominator exponent).2 ∧
      ((scaled numerator denominator exponent).1 : ℚ) / (scaled numerator denominator exponent).2 =
        numerator / denominator / 2 ^ exponent := by
  rw [scaled]
  split
  · next upward =>
    obtain ⟨power, rfl⟩ := Int.eq_ofNat_of_zero_le upward
    refine ⟨Nat.mul_pos positive (Nat.pow_pos (by decide)), ?_⟩
    rw [Int.toNat_natCast, zpow_natCast, div_div]
    push_cast [Nat.pow_eq]
    rfl
  · next downward =>
    obtain ⟨power, rfl⟩ : ∃ power : Nat, exponent = -power := ⟨exponent.natAbs, by omega⟩
    refine ⟨positive, ?_⟩
    rw [neg_neg, Int.toNat_natCast, zpow_neg, zpow_natCast, div_inv_eq_mul, div_mul_eq_mul_div]
    push_cast [Nat.pow_eq]
    rfl

/-! ### The exponent of the nearest double -/

/-- The quotient fills a significand at the exponent; at the least exponent it need not. -/
structure Fits (quotient : ℚ) (exponent : Int) : Prop where
  least : leastExponent ≤ exponent
  below : quotient < 2 ^ 53 * 2 ^ exponent
  full : exponent = leastExponent ∨ 2 ^ 52 * 2 ^ exponent ≤ quotient

theorem Fits.unique {quotient : ℚ} {left right : Int} (leftFits : Fits quotient left)
    (rightFits : Fits quotient right) : left = right := by
  have notLess {low high : Int} (lowFits : Fits quotient low) (highFits : Fits quotient high) :
      ¬ low < high := by
    intro less
    rcases highFits.full with least | full
    · have := lowFits.least
      omega
    · have step : (2 : ℚ) ^ (low + 1) ≤ 2 ^ high := zpow_le_zpow_right₀ (by norm_num) (by omega)
      rw [zpow_add_one₀ (by norm_num)] at step
      have := lowFits.below
      linarith
  have := notLess leftFits rightFits
  have := notLess rightFits leftFits
  omega

theorem two_pow_log2_le {value : Nat} (positive : 0 < value) :
    (2 : ℚ) ^ (value.log2 : ℤ) ≤ value := by
  rw [zpow_natCast]
  exact_mod_cast Nat.log2_self_le positive.ne'

theorem lt_two_pow_log2 (value : Nat) : (value : ℚ) < 2 ^ ((value.log2 : ℤ) + 1) := by
  rw [← Nat.cast_succ, zpow_natCast]
  exact_mod_cast Nat.lt_log2_self

/-- The logarithms of numerator and denominator give the exponent up to one. -/
theorem estimate_spec {numerator denominator : Nat} (above : 0 < numerator)
    (positive : 0 < denominator) {estimate : Int}
    (isEstimate : estimate = (numerator.log2 : Int) - denominator.log2 - 53) :
    2 ^ 52 * 2 ^ estimate ≤ (numerator / denominator : ℚ) ∧
      (numerator / denominator : ℚ) < 2 ^ 54 * 2 ^ estimate := by
  have bottom : (0 : ℚ) < denominator := Nat.cast_pos.mpr positive
  have two : (2 : ℚ) ≠ 0 := by norm_num
  have power (shift : Nat) : (2 : ℚ) ^ shift * 2 ^ estimate = 2 ^ (estimate + shift) := by
    rw [← zpow_natCast, ← zpow_add₀ two, Int.add_comm]
  constructor
  · rw [power, le_div_iff₀ bottom]
    calc (2 : ℚ) ^ (estimate + 52) * denominator
        ≤ 2 ^ (estimate + 52) * 2 ^ ((denominator.log2 : ℤ) + 1) := by
          gcongr
          exact (lt_two_pow_log2 denominator).le
      _ = 2 ^ (numerator.log2 : ℤ) := by
          rw [← zpow_add₀ two]
          congr 1
          omega
      _ ≤ numerator := two_pow_log2_le above
  · rw [power, div_lt_iff₀ bottom]
    calc (numerator : ℚ) < 2 ^ ((numerator.log2 : ℤ) + 1) := lt_two_pow_log2 numerator
      _ = 2 ^ (estimate + 54) * 2 ^ (denominator.log2 : ℤ) := by
          rw [← zpow_add₀ two]
          congr 1
          omega
      _ ≤ 2 ^ (estimate + 54) * denominator := by
          gcongr
          exact two_pow_log2_le positive

theorem fits_max {quotient : ℚ} {exponent : Int} (full : 2 ^ 52 * 2 ^ exponent ≤ quotient)
    (below : quotient < 2 ^ 53 * 2 ^ exponent) : Fits quotient (max exponent leastExponent) := by
  rcases Int.le_total leastExponent exponent with normal | small
  · rw [max_eq_left normal]
    exact ⟨normal, below, .inr full⟩
  · rw [max_eq_right small]
    have step : (2 : ℚ) ^ exponent ≤ 2 ^ leastExponent := zpow_le_zpow_right₀ (by norm_num) small
    exact ⟨le_rfl, by linarith, .inl rfl⟩

theorem fits_fittingExponent {numerator denominator : Nat} (above : 0 < numerator)
    (positive : 0 < denominator) :
    Fits (numerator / denominator) (fittingExponent numerator denominator) := by
  obtain ⟨least, greatest⟩ := estimate_spec above positive rfl
  have power := zpow_pos (show (0 : ℚ) < 2 by norm_num)
    ((numerator.log2 : Int) - denominator.log2 - 53)
  obtain ⟨bottom, same⟩ := scaled_spec positive numerator
    ((numerator.log2 : Int) - denominator.log2 - 53)
  have bottom : (0 : ℚ) <
      (scaled numerator denominator ((numerator.log2 : Int) - denominator.log2 - 53)).2 :=
    Nat.cast_pos.mpr bottom
  have floor : significandBound ≤
      (scaled numerator denominator ((numerator.log2 : Int) - denominator.log2 - 53)).1 /
        (scaled numerator denominator ((numerator.log2 : Int) - denominator.log2 - 53)).2 ↔
      2 ^ 53 * 2 ^ ((numerator.log2 : Int) - denominator.log2 - 53) ≤
        (numerator / denominator : ℚ) := by
    rw [Nat.le_div_iff_mul_le (Nat.cast_pos.mp bottom), ← le_div_iff₀ power, ← same,
      le_div_iff₀ bottom]
    exact_mod_cast Iff.rfl
  rw [fittingExponent]
  simp only [floor]
  split
  · next high =>
    refine fits_max ?_ ?_ <;> rw [zpow_add_one₀ (by norm_num)] <;> linarith
  · next low => exact fits_max least (not_le.mp low)

/-! ### The nearest double -/

/-- A finite double whose significand is full unless its exponent is the least. -/
structure IsProper (value : Double) : Prop where
  small : value.significand < 2 ^ 53
  least : leastExponent ≤ value.exponent
  greatest : value.exponent ≤ greatestExponent
  full : value.exponent = leastExponent ∨ 2 ^ 52 ≤ value.significand

section Nearest

variable {numerator denominator : Nat} (above : 0 < numerator) (positive : 0 < denominator)

section Rounded

variable {exponent : Int} (fits : Fits (numerator / denominator) exponent)

/-- The quotient in units of two to the exponent, rounded. -/
def rounded (numerator denominator : Nat) (exponent : Int) : Nat :=
  roundDiv (scaled numerator denominator exponent).1 (scaled numerator denominator exponent).2

include positive in
theorem rounded_eq (whole : Nat)
    (lower : (whole - 1 / 2) * 2 ^ exponent < (numerator / denominator : ℚ))
    (upper : (numerator / denominator : ℚ) < (whole + 1 / 2) * 2 ^ exponent) :
    rounded numerator denominator exponent = whole := by
  have power := zpow_pos (show (0 : ℚ) < 2 by norm_num) exponent
  obtain ⟨bottom, same⟩ := scaled_spec positive numerator exponent
  rw [← lt_div_iff₀ power] at lower
  rw [← div_lt_iff₀ power] at upper
  apply roundDiv_eq bottom
  rw [same, abs_lt]
  constructor <;> linarith

include positive in
theorem abs_rounded_sub (exponent : Int) :
    |rounded numerator denominator exponent * 2 ^ exponent - (numerator / denominator : ℚ)| ≤
      1 / 2 * 2 ^ exponent := by
  have power := zpow_pos (show (0 : ℚ) < 2 by norm_num) exponent
  obtain ⟨bottom, same⟩ := scaled_spec positive numerator exponent
  have half := abs_roundDiv_sub bottom (scaled numerator denominator exponent).1
  rw [same] at half
  have scale : rounded numerator denominator exponent * 2 ^ exponent -
      (numerator / denominator : ℚ) =
      (rounded numerator denominator exponent - numerator / denominator / 2 ^ exponent) *
        2 ^ exponent := by
    rw [sub_mul, div_mul_cancel₀ _ power.ne']
  rw [scale, abs_mul, abs_of_pos power]
  gcongr
  exact half

include above positive fits in
theorem nearest?_eq (negative : Bool) :
    nearest? negative numerator denominator =
      if rounded numerator denominator exponent = significandBound then
        if greatestExponent < exponent + 1 then none
        else some ⟨negative, significandBound / 2, exponent + 1⟩
      else if greatestExponent < exponent then none
      else some ⟨negative, rounded numerator denominator exponent, exponent⟩ := by
  have same := (fits_fittingExponent above positive).unique fits
  rw [nearest?, if_neg above.ne', same]
  simp only [rounded]
  by_cases full : roundDiv (scaled numerator denominator exponent).1
      (scaled numerator denominator exponent).2 = significandBound
  · simp only [full, if_true]
  · simp only [full, if_false]

include above positive fits in
/-- What is nearest to a quotient is the quotient rounded at its exponent. -/
theorem magnitude_of_nearest? {negative : Bool} {value : Double}
    (nearest : nearest? negative numerator denominator = some value) :
    value.magnitude = rounded numerator denominator exponent * 2 ^ exponent ∧
      value.negative = negative ∧ exponent ≤ value.exponent := by
  rw [nearest?_eq above positive fits] at nearest
  split at nearest
  · next full =>
    split at nearest
    · cases nearest
    · cases nearest
      refine ⟨?_, rfl, Int.le_add_one le_rfl⟩
      rw [magnitude, full, zpow_add_one₀ (by norm_num)]
      norm_num [significandBound, Nat.pow_eq]
      ring
  · split at nearest
    · cases nearest
    · cases nearest
      exact ⟨rfl, rfl, le_rfl⟩

include above positive fits in
theorem exists_nearest
    (notTooGreat : (numerator / denominator : ℚ) < (2 ^ 53 - 1 / 2) * 2 ^ greatestExponent)
    (negative : Bool) :
    ∃ value, nearest? negative numerator denominator = some value ∧
      |value.magnitude - (numerator / denominator : ℚ)| ≤ 1 / 2 * 2 ^ exponent := by
  have power := zpow_pos (show (0 : ℚ) < 2 by norm_num) greatestExponent
  have small : exponent ≤ greatestExponent := by
    by_contra great
    rcases fits.full with least | full
    · rw [least] at great
      exact great (by decide)
    · have step : (2 : ℚ) ^ (greatestExponent + 1) ≤ 2 ^ exponent :=
        zpow_le_zpow_right₀ (by norm_num) (by omega)
      rw [zpow_add_one₀ (by norm_num)] at step
      linarith
  have error : |rounded numerator denominator exponent * 2 ^ exponent -
      (numerator / denominator : ℚ)| ≤ 1 / 2 * 2 ^ exponent := abs_rounded_sub positive exponent
  have room (full : rounded numerator denominator exponent = significandBound) :
      ¬ greatestExponent < exponent + 1 := by
    intro great
    obtain rfl : exponent = greatestExponent := by omega
    rw [full, abs_le] at error
    have bound : ((significandBound : Nat) : ℚ) = 2 ^ 53 := by
      norm_num [significandBound, Nat.pow_eq]
    rw [bound] at error
    linarith
  obtain ⟨value, nearest⟩ : ∃ value, nearest? negative numerator denominator = some value := by
    rw [nearest?_eq above positive fits]
    split
    · next full => exact ⟨_, if_neg (room full)⟩
    · exact ⟨_, if_neg (Int.not_lt.mpr small)⟩
  refine ⟨value, nearest, ?_⟩
  rwa [(magnitude_of_nearest? above positive fits nearest).1]

end Rounded

/-- The double nearest to a quotient is away from it by half of its unit at most. -/
theorem abs_magnitude_sub {negative : Bool} {value : Double} (above : 0 < numerator)
    (positive : 0 < denominator) (nearest : nearest? negative numerator denominator = some value) :
    |value.magnitude - (numerator / denominator : ℚ)| ≤ 1 / 2 * 2 ^ value.exponent := by
  obtain ⟨same, -, order⟩ :=
    magnitude_of_nearest? above positive (fits_fittingExponent above positive) nearest
  rw [same]
  refine (abs_rounded_sub positive _).trans ?_
  gcongr
  norm_num

/-- From one on, the nearest double is away from a quotient by a part in `2 ^ 53` at most. -/
theorem exists_nearest_of_one_le (positive : 0 < denominator)
    (one : 1 ≤ (numerator / denominator : ℚ))
    (notTooGreat : (numerator / denominator : ℚ) < (2 ^ 53 - 1 / 2) * 2 ^ greatestExponent)
    (negative : Bool) :
    ∃ value, nearest? negative numerator denominator = some value ∧
      |value.magnitude - (numerator / denominator : ℚ)| ≤
        (numerator / denominator : ℚ) / 2 ^ 53 := by
  have above : 0 < numerator := by
    rw [Nat.pos_iff_ne_zero]
    rintro rfl
    norm_num at one
  have fits := fits_fittingExponent above positive
  obtain ⟨value, nearest, error⟩ := exists_nearest above positive fits notTooGreat negative
  refine ⟨value, nearest, error.trans ?_⟩
  rcases fits.full with least | full
  · have below := fits.below
    rw [least, ← zpow_natCast, ← zpow_add₀ (by norm_num)] at below
    exact absurd (one.trans_lt below)
      (not_lt.mpr (zpow_le_one_of_nonpos₀ (by norm_num) (by decide)))
  · rw [le_div_iff₀ (by norm_num)]
    linarith

/-- A quotient that is not very great has a nearest double, which is not much greater. -/
theorem exists_nearest_of_le (positive : 0 < denominator) {limit : Nat} (inRange : limit ≤ 1000)
    (bound : (numerator / denominator : ℚ) ≤ 2 ^ limit) (negative : Bool) :
    ∃ value, nearest? negative numerator denominator = some value ∧
      value.magnitude ≤ 2 ^ (limit + 1) := by
  rcases Nat.eq_zero_or_pos numerator with rfl | above
  · exact ⟨zero negative, rfl, by simp [magnitude, zero]⟩
  · have power : (2 : ℚ) ^ limit ≤ 2 ^ 1000 := pow_le_pow_right₀ (by norm_num) inRange
    have fits := fits_fittingExponent above positive
    have notTooGreat : (numerator / denominator : ℚ) < (2 ^ 53 - 1 / 2) * 2 ^ greatestExponent := by
      refine (bound.trans power).trans_lt ?_
      have split : (2 : ℚ) ^ 1000 = 2 ^ 29 * 2 ^ greatestExponent := by
        rw [← zpow_natCast, ← zpow_natCast, ← zpow_add₀ (by norm_num)]
        rfl
      rw [split]
      gcongr
      norm_num
    obtain ⟨value, nearest, error⟩ := exists_nearest above positive fits notTooGreat negative
    refine ⟨value, nearest, ?_⟩
    have unit : (1 : ℚ) / 2 * 2 ^ fittingExponent numerator denominator ≤ 2 ^ limit := by
      have positivePower := zpow_pos (show (0 : ℚ) < 2 by norm_num)
        (fittingExponent numerator denominator)
      rcases fits.full with least | full
      · have one : (1 : ℚ) ≤ 2 ^ limit := one_le_pow₀ (by norm_num)
        have small : (2 : ℚ) ^ fittingExponent numerator denominator ≤ 1 :=
          zpow_le_one_of_nonpos₀ (by norm_num) (by rw [least]; decide)
        linarith
      · linarith
    rw [abs_le] at error
    rw [pow_succ]
    linarith

/-- A double is the nearest one to what lies closer to it than half of the way to the next one. Next
below a power of two the doubles lie twice as close. -/
theorem nearest?_eq_some {value : Double} (proper : value.IsProper)
    (above : 0 < numerator) (positive : 0 < denominator)
    (lower : (value.significand - 1 / 2) * 2 ^ value.exponent < (numerator / denominator : ℚ))
    (upper : (numerator / denominator : ℚ) < (value.significand + 1 / 2) * 2 ^ value.exponent)
    (narrow : value.significand = 2 ^ 52 →
      (value.significand - 1 / 4) * 2 ^ value.exponent < (numerator / denominator : ℚ)) :
    nearest? value.negative numerator denominator = some value := by
  have power := zpow_pos (show (0 : ℚ) < 2 by norm_num) value.exponent
  have small : (value.significand : ℚ) + 1 ≤ 2 ^ 53 := by exact_mod_cast proper.small
  have notTooGreat := Int.not_lt.mpr proper.greatest
  by_cases filled : value.exponent = leastExponent ∨
      2 ^ 52 * 2 ^ value.exponent ≤ (numerator / denominator : ℚ)
  · have fits : Fits (numerator / denominator) value.exponent :=
      ⟨proper.least, by nlinarith, filled⟩
    rw [nearest?_eq above positive fits, rounded_eq positive _ lower upper,
      if_neg (show value.significand ≠ significandBound from proper.small.ne), if_neg notTooGreat]
  · -- The quotient lies below the power of two that the double is, and is rounded up to it.
    rw [not_or, not_le] at filled
    obtain ⟨notLeast, below⟩ := filled
    have full := proper.full.resolve_left notLeast
    have same : value.significand = 2 ^ 52 := by
      have : (value.significand : ℚ) - 1 / 2 < 2 ^ 52 := by
        rw [← mul_lt_mul_iff_left₀ power]
        linarith
      have : (value.significand : ℚ) < 2 ^ 52 + 1 := by linarith
      have : value.significand < 2 ^ 52 + 1 := by exact_mod_cast this
      omega
    have close := narrow same
    have half : (2 : ℚ) ^ value.exponent = 2 ^ (value.exponent - 1) * 2 := by
      rw [← zpow_add_one₀ (by norm_num), Int.sub_add_cancel]
    have least := proper.least
    rw [same, half] at close
    rw [half] at below
    push_cast at close
    have powerBelow := zpow_pos (show (0 : ℚ) < 2 by norm_num) (value.exponent - 1)
    have fits : Fits (numerator / denominator) (value.exponent - 1) :=
      ⟨by omega, by linarith, .inr (by linarith)⟩
    have whole : rounded numerator denominator (value.exponent - 1) = significandBound :=
      rounded_eq positive (2 ^ 53) (by push_cast; linarith) (by push_cast; linarith)
    rw [nearest?_eq above positive fits, whole, if_pos rfl, Int.sub_add_cancel, if_neg notTooGreat]
    congr 1
    obtain ⟨negative, significand, exponent⟩ := value
    dsimp only at same
    rw [same]
    rfl

end Nearest

end Double

end ScanMerge.Decimal
