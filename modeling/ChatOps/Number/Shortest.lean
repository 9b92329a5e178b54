import ChatOps.Number.Binary64

/-!
# Shortest decimals

The decimal with the fewest digits that reads back as a given binary number, and
of several such decimals the nearest one.  On each decimal grid only the two
neighbours of the number need to be tried.
-/

set_option autoImplicit false

namespace ChatOps.Number

/-- The decimal `digits * 10 ^ power`. -/
structure Decimal where
  digits : Nat
  power : Int
  deriving DecidableEq

/-- The numbers that round to a given one, in units of a common denominator: the
number itself and both ends, which belong to it when `closed`. -/
structure RoundingInterval where
  low : Nat
  middle : Nat
  high : Nat
  denominator : Nat
  closed : Bool

/-- The interval of a positive number.  Below a power of two the next smaller
number is half as far away. -/
def Binary64.interval (x : Binary64) : RoundingInterval :=
  let quarter : Fraction := (Fraction.mk 1 1).scale 2 (x.exponent - 2)
  let downward :=
    if x.significand = 1 <<< 52 ∧ leastExponent < x.exponent then 1 else 2
  { low := (4 * x.significand - downward) * quarter.numerator
    middle := 4 * x.significand * quarter.numerator
    high := (4 * x.significand + 2) * quarter.numerator
    denominator := quarter.denominator
    closed := x.significand % 2 == 0 }

/-- Whether a decimal lies in the interval. -/
def RoundingInterval.holds (interval : RoundingInterval) (decimal : Decimal) :
    Bool :=
  let scaled := (Fraction.mk decimal.digits 1).scale 10 decimal.power
  let value := scaled.numerator * interval.denominator
  let low := interval.low * scaled.denominator
  let high := interval.high * scaled.denominator
  if interval.closed then decide (low ≤ value ∧ value ≤ high)
  else decide (low < value ∧ value < high)

/-- The distance of a decimal from the middle, in units of the decimal's and the
interval's denominators. -/
def RoundingInterval.error (interval : RoundingInterval) (decimal : Decimal) :
    Nat :=
  let scaled := (Fraction.mk decimal.digits 1).scale 10 decimal.power
  let value := scaled.numerator * interval.denominator
  let middle := interval.middle * scaled.denominator
  (value - middle) + (middle - value)

/-- The better of the two neighbours on the grid of multiples of a power of ten,
if one of them lies in the interval. -/
def RoundingInterval.onGrid? (interval : RoundingInterval) (power : Int) :
    Option Decimal :=
  let scaled :=
    (Fraction.mk interval.middle interval.denominator).scale 10 (-power)
  let below : Decimal := ⟨scaled.numerator / scaled.denominator, power⟩
  let above : Decimal := ⟨below.digits + 1, power⟩
  match interval.holds below, interval.holds above with
  | false, false => none
  | true, false => some below
  | false, true => some above
  | true, true =>
      if interval.error below < interval.error above then some below
      else if interval.error above < interval.error below then some above
      else if below.digits % 2 = 0 then some below
      else some above

/-- Raise a power of ten while the fraction reaches the next one. -/
def Fraction.climb (fraction : Fraction) : Nat → Int → Int
  | 0, power => power
  | steps + 1, power =>
      if fraction.reaches 10 (power + 1) then fraction.climb steps (power + 1)
      else power

/-- The greatest power of ten that a positive fraction reaches. -/
def Fraction.log10 (fraction : Fraction) : Int :=
  fraction.climb 4 (Int.fdiv (fraction.log2 * 30103) 100000 - 2)

/-- Try grids from coarse to fine. -/
def RoundingInterval.firstHit (interval : RoundingInterval) :
    Nat → Int → Option Decimal
  | 0, _ => none
  | tries + 1, power =>
      match interval.onGrid? power with
      | some decimal => some decimal
      | none => interval.firstHit tries (power - 1)

/-- Move trailing zeros of the digits into the power. -/
def Decimal.stripZeros : Nat → Decimal → Decimal
  | 0, decimal => decimal
  | steps + 1, decimal =>
      if decimal.digits ≠ 0 ∧ decimal.digits % 10 = 0 then
        Decimal.stripZeros steps ⟨decimal.digits / 10, decimal.power + 1⟩
      else decimal

/-- The shortest decimal of the magnitude of a number. -/
def Binary64.shortest (x : Binary64) : Decimal :=
  if x.isZero then ⟨0, 0⟩
  else
    match x.interval.firstHit 18 x.magnitude.log10 with
    | some decimal => Decimal.stripZeros 18 decimal
    | none => ⟨0, 0⟩

end ChatOps.Number
