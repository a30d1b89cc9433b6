import ScanMerge.Decimal.Double

/-!
The decimal text of a double: the fewest digits that read back, in positional or scientific
notation, or a set number of decimals.
-/

set_option autoImplicit false

namespace ScanMerge.Decimal

/-- The number `coefficient · 10 ^ exponent`. -/
structure Scaled where
  coefficient : Nat
  exponent : Int
  deriving DecidableEq, Repr

namespace Scaled

def quotient (value : Scaled) : Nat × Nat :=
  if 0 ≤ value.exponent then (value.coefficient * Nat.pow 10 value.exponent.toNat, 1)
  else (value.coefficient, Nat.pow 10 (-value.exponent).toNat)

def digits (value : Scaled) : List Char :=
  Nat.toDigits 10 value.coefficient

/-- The exponent of the first digit. -/
def leading (value : Scaled) : Int :=
  value.exponent + value.digits.length - 1

/-- The number without the zeros at the end of its coefficient. -/
def trimmed (value : Scaled) : Scaled :=
  let zeros := (value.digits.reverse.takeWhile (· = '0')).length
  ⟨value.coefficient / Nat.pow 10 zeros, value.exponent + zeros⟩

end Scaled

namespace Double

/-- The exponent of the first decimal digit of a positive quotient. -/
def decimalExponent (numerator denominator : Nat) : Int :=
  if denominator ≤ numerator then
    (Nat.toDigits 10 (numerator / denominator)).length - 1
  else
    let length := (Nat.toDigits 10 (denominator / numerator)).length
    if denominator ≤ numerator * Nat.pow 10 (length - 1) then 1 - (length : Int)
    else -(length : Int)

/-- A decimal number reads back as the magnitude of a double. -/
def readsBack (value : Double) (decimal : Scaled) : Bool :=
  nearest? value.negative decimal.quotient.1 decimal.quotient.2 = some value

/-- The decimal numbers with the given exponent on both sides of a quotient. -/
def neighbours (numerator denominator : Nat) (exponent : Int) : Scaled × Scaled :=
  let (top, bottom) :=
    if 0 ≤ exponent then (numerator, denominator * Nat.pow 10 exponent.toNat)
    else (numerator * Nat.pow 10 (-exponent).toNat, denominator)
  (⟨top / bottom, exponent⟩, ⟨top / bottom + 1, exponent⟩)

/-- Twice the remainder of the quotient on the decimal grid compared with the grid's step: whether
the neighbour above is the nearer one, or equally near and even. -/
def isNearerAbove (numerator denominator : Nat) (exponent : Int) : Bool :=
  let (top, bottom) :=
    if 0 ≤ exponent then (numerator, denominator * Nat.pow 10 exponent.toNat)
    else (numerator * Nat.pow 10 (-exponent).toNat, denominator)
  roundDiv top bottom ≠ top / bottom

/-- The decimal number of so many digits that reads back and is nearest to a positive double. -/
def withDigits? (value : Double) (count : Nat) : Option Scaled :=
  let (numerator, denominator) := value.quotient
  let exponent := decimalExponent numerator denominator - count + 1
  let (below, above) := neighbours numerator denominator exponent
  match value.readsBack below, value.readsBack above with
  | true, true => some (if isNearerAbove numerator denominator exponent then above else below)
  | true, false => some below
  | false, true => some above
  | false, false => none

/-- The decimal number with the fewest digits that reads back as a positive double. Seventeen digits
always do. -/
def shortest (value : Double) : Scaled :=
  (((List.range 17).findSome? fun count => value.withDigits? (count + 1)).getD ⟨0, 0⟩).trimmed

end Double

/-- How a number is laid out: for which exponents of the first digit it is written positionally.
Otherwise it is written with one digit before the point and a signed exponent. -/
structure Layout where
  positional : Int → Bool

namespace Layout

/-- The positional text of digits whose first one has the given exponent, always with a
fraction. -/
def positionalText (digits : List Char) (leading : Int) : List Char :=
  if leading < 0 then
    '0' :: '.' :: List.replicate (-leading - 1).toNat '0' ++ digits
  else
    let whole := leading.toNat + 1
    let padded := digits ++ List.replicate (whole - digits.length) '0'
    let fraction := padded.drop whole
    padded.take whole ++ '.' :: (if fraction = [] then ['0'] else fraction)

def scientificText (digits : List Char) (leading : Int) : List Char :=
  let mantissa :=
    match digits with
    | first :: second :: rest => first :: '.' :: second :: rest
    | few => few
  let sign := if leading < 0 then '-' else '+'
  mantissa ++ 'e' :: sign :: Nat.toDigits 10 leading.natAbs

/-- The text of a double: the fewest digits that read back, laid out in that form. -/
def text (form : Layout) (value : Double) : List Char :=
  let sign := if value.negative then ['-'] else []
  if value.significand = 0 then
    sign ++ ['0', '.', '0']
  else
    let decimal := value.shortest
    let arrange := if form.positional decimal.leading then positionalText else scientificText
    sign ++ arrange decimal.digits decimal.leading

end Layout

/-- The text of a double with one decimal, rounded from the exact value, a tie going to the even
digit. -/
def oneDecimalText (value : Double) : List Char :=
  let (numerator, denominator) := value.quotient
  let tenths := roundDiv (10 * numerator) denominator
  (if value.negative then ['-'] else []) ++
    Nat.toDigits 10 (tenths / 10) ++ '.' :: Nat.toDigits 10 (tenths % 10)

end ScanMerge.Decimal
