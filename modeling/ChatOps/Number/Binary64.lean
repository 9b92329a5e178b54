/-!
# Finite binary floating-point numbers of 64 bits

A number is a sign, a significand below `2 ^ 53` and an exponent of two.  Every
operation is the exact rational result rounded to the nearest such number, a tie
going to the even significand; a result out of range is `none`.
-/

set_option autoImplicit false

namespace ChatOps.Number

/-- The number `± significand * 2 ^ exponent`. -/
structure Binary64 where
  negative : Bool
  significand : Nat
  exponent : Int
  deriving DecidableEq

/-- The exponent of the smallest positive number. -/
def leastExponent : Int := -1074

/-- The largest exponent. -/
def greatestExponent : Int := 971

/-- A fraction as numerator and denominator. -/
structure Fraction where
  numerator : Nat
  denominator : Nat

/-- A fraction times a power of a base. -/
def Fraction.scale (fraction : Fraction) (base : Nat) (power : Int) : Fraction :=
  if 0 ≤ power then
    ⟨fraction.numerator * Nat.pow base power.toNat, fraction.denominator⟩
  else
    ⟨fraction.numerator, fraction.denominator * Nat.pow base (-power).toNat⟩

/-- Whether a fraction is at least a power of a base. -/
def Fraction.reaches (fraction : Fraction) (base : Nat) (power : Int) : Bool :=
  let scaled := fraction.scale base (-power)
  decide (scaled.denominator ≤ scaled.numerator)

/-- The nearest natural number, a tie going to the even one. -/
def Fraction.round (fraction : Fraction) : Nat :=
  let quotient := fraction.numerator / fraction.denominator
  let twice := 2 * (fraction.numerator % fraction.denominator)
  if twice < fraction.denominator then quotient
  else if fraction.denominator < twice then quotient + 1
  else quotient + quotient % 2

/-- The greatest power of two that a positive fraction reaches. -/
def Fraction.log2 (fraction : Fraction) : Int :=
  let guess : Int :=
    (Nat.log2 fraction.numerator : Int) - (Nat.log2 fraction.denominator : Int)
  if fraction.reaches 2 guess then guess else guess - 1

namespace Binary64

def zero (negative : Bool) : Binary64 := ⟨negative, 0, leastExponent⟩

/-- The nearest number to a fraction, if it is in range. -/
def ofFraction? (negative : Bool) (fraction : Fraction) : Option Binary64 :=
  if fraction.numerator = 0 then some (zero negative)
  else
    let exponent := max leastExponent (fraction.log2 - 52)
    let rounded := (fraction.scale 2 (-exponent)).round
    let carried := decide (rounded = 1 <<< 53)
    let significand := if carried then 1 <<< 52 else rounded
    let shifted := if carried then exponent + 1 else exponent
    if greatestExponent < shifted then none
    else some ⟨negative, significand, shifted⟩

/-- The magnitude as a fraction. -/
def magnitude (x : Binary64) : Fraction :=
  (Fraction.mk x.significand 1).scale 2 x.exponent

def isZero (x : Binary64) : Bool := x.significand == 0

/-- The nearest number to `digits * 10 ^ power`. -/
def ofDecimal? (negative : Bool) (digits : Nat) (power : Int) : Option Binary64 :=
  ofFraction? negative ((Fraction.mk digits 1).scale 10 power)

def ofNat? (n : Nat) : Option Binary64 := ofFraction? false ⟨n, 1⟩

def mul? (x y : Binary64) : Option Binary64 :=
  ofFraction? (x.negative != y.negative)
    ⟨x.magnitude.numerator * y.magnitude.numerator,
      x.magnitude.denominator * y.magnitude.denominator⟩

/-- The quotient of two numbers, the second not zero. -/
def div? (x y : Binary64) : Option Binary64 :=
  ofFraction? (x.negative != y.negative)
    ⟨x.magnitude.numerator * y.magnitude.denominator,
      x.magnitude.denominator * y.magnitude.numerator⟩

/-- One less a number between zero and one. -/
def oneMinus? (x : Binary64) : Option Binary64 :=
  ofFraction? false
    ⟨x.magnitude.denominator - x.magnitude.numerator, x.magnitude.denominator⟩

/-- Equality of values: the two zeros are equal. -/
def sameValue (x y : Binary64) : Bool :=
  (x.isZero && y.isZero) || x == y

/-- The interchange encoding as a number of 64 bits. -/
def bits (x : Binary64) : Nat :=
  let fields :=
    if x.significand < 1 <<< 52 then x.significand
    else (x.exponent - leastExponent + 1).toNat <<< 52 + (x.significand - 1 <<< 52)
  if x.negative then 1 <<< 63 + fields else fields

end Binary64

end ChatOps.Number
