/-!
# The newest items

Cutting a list that grows at its end down to its last items.
-/

set_option autoImplicit false

namespace ChatOps

universe u

variable {Item : Type u}

/-- The last `most` items of a list. -/
def newest (most : Nat) (items : List Item) : List Item :=
  items.drop (items.length - most)

/-- The number of items that are cut off. -/
def excess (most : Nat) (items : List Item) : Nat := items.length - most

theorem length_newest_le (most : Nat) (items : List Item) :
    (newest most items).length ≤ most := by
  simp only [newest, List.length_drop]
  omega

theorem newest_of_length_le {most : Nat} {items : List Item}
    (short : items.length ≤ most) : newest most items = items := by
  simp [newest, Nat.sub_eq_zero_of_le short]

/-- Cutting first and adding then, or adding first, comes to the same. -/
theorem newest_newest_append (most : Nat) (items later : List Item) :
    newest most (newest most items ++ later) = newest most (items ++ later) := by
  by_cases short : items.length ≤ most
  · rw [newest_of_length_le short]
  · have cut : (newest most items ++ later) =
        (items ++ later).drop (items.length - most) := by
      rw [newest, List.drop_append_of_le_length (Nat.sub_le _ _)]
    rw [cut, newest, newest, List.drop_drop]
    congr 1
    simp only [List.length_drop, List.length_append]
    omega

end ChatOps
