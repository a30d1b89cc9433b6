import Mathlib.Algebra.Group.Nat.Defs

/-!
The decimal digits of a number: how many there are, that only zero begins with a zero, and what the
zeros at the end amount to.
-/

set_option autoImplicit false

namespace ScanMerge.Decimal

theorem toNat_digit {c : Char} (digit : c.isDigit = true) : 48 ≤ c.toNat ∧ c.toNat ≤ 57 := by
  rw [Char.isDigit, Bool.and_eq_true, decide_eq_true_eq, decide_eq_true_eq, ge_iff_le,
    UInt32.le_iff_toNat_le, UInt32.le_iff_toNat_le] at digit
  exact digit

theorem digitChar_eq_zero {value : Nat} (small : value < 10) :
    value.digitChar = '0' ↔ value = 0 := by
  decide +revert

theorem isDigit_of_mem {value : Nat} {c : Char} (member : c ∈ Nat.toDigits 10 value) :
    c.isDigit = true :=
  Nat.isDigit_of_mem_toDigits (by decide) (by decide) member

abbrev valueOf (digits : List Char) : Nat :=
  Nat.ofDigitChars 10 digits 0

theorem valueOf_toDigits (value : Nat) : valueOf (Nat.toDigits 10 value) = value :=
  Nat.ofDigitChars_ten_toDigits

theorem valueOf_append (front back : List Char) :
    valueOf (front ++ back) = 10 ^ back.length * valueOf front + valueOf back := by
  rw [valueOf, Nat.ofDigitChars_append, Nat.ofDigitChars_eq_ofDigitChars_zero]

theorem valueOf_zeros (count : Nat) : valueOf (List.replicate count '0') = 0 := by
  rw [valueOf, Nat.ofDigitChars_replicate_zero, Nat.mul_zero]

theorem le_ofDigitChars (digits : List Char) (start : Nat) :
    start ≤ Nat.ofDigitChars 10 digits start := by
  induction digits generalizing start with
  | nil => exact Nat.le_refl _
  | cons c rest ih =>
    rw [Nat.ofDigitChars_cons]
    exact Nat.le_trans (by omega) (ih _)

/-- A number that is not zero does not begin with a zero. -/
theorem head?_toDigits {value : Nat} (zero : (Nat.toDigits 10 value).head? = some '0') :
    value = 0 := by
  induction value using Nat.strongRecOn with
  | ind value ih =>
    by_cases small : value < 10
    · rw [Nat.toDigits_of_lt_base small] at zero
      exact (digitChar_eq_zero small).mp (Option.some.inj zero)
    · rw [Nat.toDigits_of_base_le (by decide) (by omega), List.head?_append,
        List.head?_eq_some_head Nat.toDigits_ne_nil, Option.some_or,
        ← List.head?_eq_some_head Nat.toDigits_ne_nil] at zero
      have := ih (value / 10) (by omega) zero
      omega

theorem length_toDigits_bounds {value : Nat} (positive : 0 < value) :
    10 ^ ((Nat.toDigits 10 value).length - 1) ≤ value ∧
      value < 10 ^ (Nat.toDigits 10 value).length := by
  have some : 0 < (Nat.toDigits 10 value).length := Nat.length_toDigits_pos
  refine ⟨?_, (Nat.length_toDigits_le_iff (by decide) some).mp (Nat.le_refl _)⟩
  rcases Nat.eq_zero_or_pos ((Nat.toDigits 10 value).length - 1) with one | more
  · rw [one]
    exact positive
  · apply Nat.le_of_not_lt
    intro less
    have := (Nat.length_toDigits_le_iff (by decide) more).mpr less
    omega

/-- Each zero at the end stands for a factor of ten. -/
theorem trailingZeros {value : Nat} (positive : 0 < value) :
    ∃ rest, 0 < rest ∧
      value = rest * 10 ^ ((Nat.toDigits 10 value).reverse.takeWhile (· = '0')).length := by
  induction value using Nat.strongRecOn with
  | ind value ih =>
    by_cases small : value < 10
    · have notZero : value.digitChar ≠ '0' := by
        rw [Ne, digitChar_eq_zero small]
        omega
      refine ⟨value, positive, ?_⟩
      rw [Nat.toDigits_of_lt_base small]
      simp [notZero]
    · rw [Nat.toDigits_of_base_le (by decide) (Nat.le_of_not_lt small), List.reverse_append,
        List.reverse_singleton, List.singleton_append, List.takeWhile_cons]
      split
      · next zero =>
        rw [decide_eq_true_eq, digitChar_eq_zero (Nat.mod_lt _ (by decide))] at zero
        obtain ⟨rest, some, same⟩ := ih (value / 10) (by omega) (by omega)
        refine ⟨rest, some, ?_⟩
        rw [List.length_cons, Nat.pow_succ, ← Nat.mul_assoc, ← same]
        omega
      · exact ⟨value, positive, by simp⟩

end ScanMerge.Decimal
