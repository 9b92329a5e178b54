import ChatOps.Command.Misspelling
import ChatOps.Proofs.Number.Rounding
import ChatOps.Proofs.Text.EditDistance

/-!
# Laws of the edit distance

The distance does not depend on the order of the texts, is zero just for equal texts, and
lies between the difference and the maximum of their lengths, so the share of a text that
need not be edited is between zero and one, also as a floating-point number.  It is found
without a cell that is missing and without a sum that is too large, whatever limit above
both lengths is set (`editDistance_laws`).
-/

set_option autoImplicit false

namespace ChatOps

open ChatOps.Text ChatOps.Number

/-! ## Least costs -/

theorem Text.LeastCost.eq_zero_iff {left right : List Char} {cost : Nat}
    (least : LeastCost left right cost) : cost = 0 ↔ left = right := by
  constructor
  · exact least.alignment.eq_of_free
  · rintro rfl
    exact Nat.le_zero.1 (least.le (Alignment.keepAll left))

/-- At least the difference of the lengths has to be added or removed. -/
theorem Text.LeastCost.difference_le {left right : List Char} {cost : Nat}
    (least : LeastCost left right cost) :
    max left.length right.length - min left.length right.length ≤ cost := by
  have leftBound := least.alignment.length_le
  have rightBound := least.alignment.swap.length_le
  omega

theorem Text.editDistance_le_max (left right : String) :
    editDistance left right ≤ max left.toList.length right.toList.length :=
  (leastCost_editDistance left right).le_max

theorem Text.editDistance_eq_zero_iff {left right : String} :
    editDistance left right = 0 ↔ left = right := by
  rw [(leastCost_editDistance left right).eq_zero_iff, String.toList_inj]

/-! ## Shares -/

theorem share_mem {cost longest : Nat} (le : cost ≤ longest) :
    0 ≤ (1 : ℚ) - cost / longest ∧ (1 : ℚ) - cost / longest ≤ 1 := by
  have costBound : (cost : ℚ) / longest ≤ 1 :=
    div_le_one_of_le₀ (Nat.cast_le.2 le) (Nat.cast_nonneg longest)
  have nonnegative : 0 ≤ (cost : ℚ) / longest := by positivity
  exact ⟨sub_nonneg.2 costBound, sub_le_self 1 nonnegative⟩

/-- The likeness of two texts is in range, and between zero and one. -/
theorem similarity?_mem {left right : String}
    (le : editDistance left right ≤ max left.toList.length right.toList.length) :
    ∃ likeness, similarity? left right = some likeness ∧
      0 ≤ likeness.value ∧ likeness.value ≤ 1 := by
  suffices isPart : ∃ likeness, similarity? left right = some likeness ∧
      likeness.negative = false ∧ likeness.magnitude.IsPart by
    obtain ⟨likeness, found, nonnegative, part⟩ := isPart
    refine ⟨likeness, found, ?_⟩
    rw [Binary64.value_of_nonnegative nonnegative]
    exact part.value_mem
  rw [similarity?]
  by_cases empty : max left.toList.length right.toList.length = 0
  · simp only [empty, if_true]
    exact Binary64.ofFraction?_of_isPart ⟨Nat.one_pos, Nat.le_refl 1⟩
  · have edited : (Fraction.mk (editDistance left right)
        (max left.toList.length right.toList.length)).IsPart :=
      ⟨Nat.pos_of_ne_zero empty, le⟩
    obtain ⟨share, found, _, part⟩ := Binary64.ofFraction?_of_isPart edited
    simp only [empty, if_false, found, Option.bind_some]
    exact Binary64.oneMinus?_of_isPart part

/-- The laws of the distance: symmetry, when it is zero, its bounds and those of the share
that is kept, and that every limit above both lengths is as good as none. -/
theorem editDistance_laws (left right : String) :
    editDistance left right = editDistance right left ∧
      (editDistance left right = 0 ↔ left = right) ∧
      max left.toList.length right.toList.length - min left.toList.length right.toList.length ≤
        editDistance left right ∧
      editDistance left right ≤ max left.toList.length right.toList.length ∧
      (0 ≤ (1 : ℚ) - editDistance left right / max left.toList.length right.toList.length ∧
        (1 : ℚ) - editDistance left right / max left.toList.length right.toList.length ≤ 1) ∧
      (∃ likeness, similarity? left right = some likeness ∧
        0 ≤ likeness.value ∧ likeness.value ≤ 1) ∧
      ∀ limit, max left.toList.length right.toList.length < limit →
        distance (checked limit) left.toList right.toList = some (editDistance left right) ∧
          (distance (saturating limit) left.toList right.toList).run =
            editDistance left right := by
  obtain ⟨leftFits, rightFits⟩ := length_lt_limit left.toList right.toList
  obtain ⟨cost, _, least⟩ := distance_checked leftFits rightFits
  have forward : editDistance left right = cost := editDistance_eq least
  have backward : editDistance right left = cost := editDistance_eq least.swap
  have bound := least.le_max
  rw [← forward] at bound
  refine ⟨forward.trans backward.symm, ?_, ?_, bound, share_mem bound, similarity?_mem bound, ?_⟩
  · rw [forward, least.eq_zero_iff, String.toList_inj]
  · rw [forward]
    exact least.difference_le
  · intro limit above
    obtain ⟨found, success, foundLeast⟩ :=
      distance_checked (lt_of_le_of_lt (le_max_left _ _) above)
        (lt_of_le_of_lt (le_max_right _ _) above)
    have same : editDistance left right = found := editDistance_eq foundLeast
    rw [same]
    exact ⟨success, distance_saturating success⟩

/-- With the sums of 64 bits. -/
theorem editDistance_laws_gti :
    max "gti".toList.length "git".toList.length < 2 ^ 64 - 1 ∧
      distance (checked (2 ^ 64 - 1)) "gti".toList "git".toList =
        some (editDistance "gti" "git") ∧
      (distance (saturating (2 ^ 64 - 1)) "gti".toList "git".toList).run =
        editDistance "gti" "git" := by
  have above : max "gti".toList.length "git".toList.length < 2 ^ 64 - 1 := by decide
  obtain ⟨_, _, _, _, _, _, limits⟩ := editDistance_laws "gti" "git"
  exact ⟨above, limits (2 ^ 64 - 1) above⟩

end ChatOps
