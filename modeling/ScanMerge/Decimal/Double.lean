/-!
Double precision numbers as exact values. A finite double is a whole number of units of a power of
two; arithmetic is exact and then rounded to the nearest double, a tie going to the even one.
-/

set_option autoImplicit false

namespace ScanMerge.Decimal

/-- The whole number nearest to a quotient; of two equally near ones the even one. -/
def roundDiv (numerator denominator : Nat) : Nat :=
  let quotient := numerator / denominator
  let remainder := numerator % denominator
  if denominator < 2 * remainder ∨ (denominator = 2 * remainder ∧ quotient % 2 = 1) then
    quotient + 1
  else
    quotient

/-- The finite double `± significand · 2 ^ exponent`. -/
structure Double where
  negative : Bool
  significand : Nat
  exponent : Int
  deriving DecidableEq, Repr, Inhabited

namespace Double

def leastExponent : Int := -1074

def greatestExponent : Int := 971

def significandBound : Nat := Nat.pow 2 53

def zero (negative : Bool) : Double :=
  ⟨negative, 0, leastExponent⟩

/-- `numerator / denominator · 2 ^ (-exponent)` as a quotient. -/
def scaled (numerator denominator : Nat) (exponent : Int) : Nat × Nat :=
  if 0 ≤ exponent then
    (numerator, denominator * Nat.pow 2 exponent.toNat)
  else
    (numerator * Nat.pow 2 (-exponent).toNat, denominator)

/-- The exponent at which a positive quotient fills a significand, or the least exponent. -/
def fittingExponent (numerator denominator : Nat) : Int :=
  let estimate : Int := (Nat.log2 numerator : Int) - Nat.log2 denominator - 53
  let (scaledNumerator, scaledDenominator) := scaled numerator denominator estimate
  let fitting :=
    if significandBound ≤ scaledNumerator / scaledDenominator then estimate + 1 else estimate
  max fitting leastExponent

/-- The double nearest to a quotient; none when it is too great. -/
def nearest? (negative : Bool) (numerator denominator : Nat) : Option Double :=
  if numerator = 0 then
    some (zero negative)
  else
    let exponent := fittingExponent numerator denominator
    let (scaledNumerator, scaledDenominator) := scaled numerator denominator exponent
    let rounded := roundDiv scaledNumerator scaledDenominator
    let (significand, exponent) :=
      if rounded = significandBound then (rounded / 2, exponent + 1) else (rounded, exponent)
    if greatestExponent < exponent then none else some ⟨negative, significand, exponent⟩

def quotient (value : Double) : Nat × Nat :=
  scaled value.significand 1 (-value.exponent)

/-- The product of magnitudes, rounded, with the sign of the first. -/
def times? (left right : Double) : Option Double :=
  nearest? left.negative (left.quotient.1 * right.quotient.1) (left.quotient.2 * right.quotient.2)

/-- The quotient of magnitudes, rounded, with the sign of the first; the second is not zero. -/
def over? (left right : Double) : Option Double :=
  nearest? left.negative (left.quotient.1 * right.quotient.2) (left.quotient.2 * right.quotient.1)

/-- The double nearest to a whole number; none when it is too great. -/
def ofNat? (negative : Bool) (value : Nat) : Option Double :=
  nearest? negative value 1

/-- A power of ten as a double; none above `10 ^ 308`. -/
def powerOfTen? (exponent : Nat) : Option Double :=
  nearest? false (Nat.pow 10 exponent) 1

end Double

end ScanMerge.Decimal
