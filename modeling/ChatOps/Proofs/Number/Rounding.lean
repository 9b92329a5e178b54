import ChatOps.Number.Binary64
import Mathlib.Algebra.Order.Field.Rat
import Mathlib.Data.Nat.Log
import Mathlib.Tactic.Positivity

/-!
# Rounding parts of one

A fraction between zero and one stays there when it is rounded to a floating-point number
(`ofFraction?_of_isPart`), and so does one less such a number (`oneMinus?_of_isPart`).
-/

set_option autoImplicit false

namespace ChatOps.Number

/-! ## Fractions -/

/-- Whether a fraction is between zero and one. -/
structure Fraction.IsPart (fraction : Fraction) : Prop where
  positive : 0 < fraction.denominator
  le : fraction.numerator ≤ fraction.denominator

def Fraction.value (fraction : Fraction) : ℚ := fraction.numerator / fraction.denominator

theorem Fraction.IsPart.value_mem {fraction : Fraction} (part : fraction.IsPart) :
    0 ≤ fraction.value ∧ fraction.value ≤ 1 := by
  have positive : (0 : ℚ) < fraction.denominator := Nat.cast_pos.2 part.positive
  refine ⟨by rw [Fraction.value]; positivity, ?_⟩
  rw [Fraction.value, div_le_one positive]
  exact Nat.cast_le.2 part.le

/-- A fraction that is at most a natural number is not rounded above it. -/
theorem Fraction.round_le {fraction : Fraction} {bound : Nat}
    (positive : 0 < fraction.denominator)
    (le : fraction.numerator ≤ bound * fraction.denominator) : fraction.round ≤ bound := by
  have quotientLe : fraction.numerator / fraction.denominator ≤ bound :=
    Nat.div_le_of_le_mul (by rwa [Nat.mul_comm])
  rcases Nat.lt_or_eq_of_le quotientLe with below | atBound
  · rw [Fraction.round]
    split
    · exact quotientLe
    · split <;> omega
  · -- Nothing remains when the quotient is the bound.
    have whole := Nat.div_add_mod fraction.numerator fraction.denominator
    rw [atBound, Nat.mul_comm] at whole
    have remainder : fraction.numerator % fraction.denominator = 0 := by omega
    rw [Fraction.round, remainder, if_pos (by omega)]
    exact quotientLe

theorem Fraction.log2_nonpos {fraction : Fraction}
    (le : fraction.numerator ≤ fraction.denominator) : fraction.log2 ≤ 0 := by
  have lengths : Nat.log2 fraction.numerator ≤ Nat.log2 fraction.denominator := by
    rw [Nat.log2_eq_log_two, Nat.log2_eq_log_two]
    exact Nat.log_mono_right le
  rw [Fraction.log2]
  split <;> omega

namespace Binary64

def value (x : Binary64) : ℚ := (if x.negative then -1 else 1) * x.magnitude.value

theorem value_of_nonnegative {x : Binary64} (nonnegative : x.negative = false) :
    x.value = x.magnitude.value := by
  rw [value, nonnegative]
  exact one_mul _

/-- A number without a sign is at most one if its significand is not too large for its
exponent. -/
theorem isPart_magnitude {negative : Bool} {significand : Nat} {exponent : Int}
    (below : exponent < 0) (le : significand ≤ 2 ^ (-exponent).toNat) :
    (magnitude ⟨negative, significand, exponent⟩).IsPart := by
  rw [magnitude, Fraction.scale, if_neg (not_le.2 below)]
  refine ⟨?_, ?_⟩
  · rw [one_mul]
    exact Nat.pow_pos (by decide)
  · rw [one_mul]
    exact le

/-- A fraction between zero and one is in range, and stays there when it is rounded. -/
theorem ofFraction?_of_isPart {fraction : Fraction} (part : fraction.IsPart) :
    ∃ x, ofFraction? false fraction = some x ∧ x.negative = false ∧ x.magnitude.IsPart := by
  by_cases nothing : fraction.numerator = 0
  · refine ⟨zero false, if_pos nothing, rfl, ?_⟩
    exact isPart_magnitude (by decide) (Nat.zero_le _)
  · obtain ⟨exponent, exponentIs⟩ :
        ∃ exponent, exponent = max leastExponent (fraction.log2 - 52) := ⟨_, rfl⟩
    obtain ⟨rounded, roundedIs⟩ :
        ∃ rounded, rounded = (fraction.scale 2 (-exponent)).round := ⟨_, rfl⟩
    have exponentBound : exponent ≤ -52 := by
      have bound := Fraction.log2_nonpos part.le
      rw [exponentIs]
      exact max_le (by decide) (by omega)
    have roundedBound : rounded ≤ 2 ^ (-exponent).toNat := by
      rw [roundedIs, Fraction.scale, if_pos (by omega)]
      refine Fraction.round_le part.positive ?_
      rw [Nat.mul_comm]
      exact Nat.mul_le_mul_left _ part.le
    rw [ofFraction?, if_neg nothing]
    simp only [← exponentIs, ← roundedIs]
    by_cases carried : rounded = 1 <<< 53
    · -- The significand is halved and the exponent raised, which is the same number.
      have shift : (-exponent).toNat = (-(exponent + 1)).toNat + 1 := by omega
      have halved : 1 <<< 52 ≤ 2 ^ (-(exponent + 1)).toNat := by
        rw [carried, shift, pow_succ] at roundedBound
        omega
      refine ⟨⟨false, 1 <<< 52, exponent + 1⟩, ?_, rfl, isPart_magnitude (by omega) halved⟩
      rw [decide_eq_true carried, if_pos rfl, if_pos rfl, if_neg]
      rw [greatestExponent]
      omega
    · refine ⟨⟨false, rounded, exponent⟩, ?_, rfl, isPart_magnitude (by omega) roundedBound⟩
      rw [decide_eq_false carried, if_neg Bool.false_ne_true, if_neg Bool.false_ne_true, if_neg]
      rw [greatestExponent]
      omega

theorem oneMinus?_of_isPart {x : Binary64} (part : x.magnitude.IsPart) :
    ∃ y, oneMinus? x = some y ∧ y.negative = false ∧ y.magnitude.IsPart :=
  ofFraction?_of_isPart ⟨part.positive, Nat.sub_le _ _⟩

end Binary64

end ChatOps.Number
