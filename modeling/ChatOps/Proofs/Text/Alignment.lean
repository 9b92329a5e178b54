import ChatOps.Text.EditDistance
import Mathlib.Order.Bounds.Basic
import Mathlib.Order.MinMax

/-!
# Costs of alignments

An alignment can be read from either side and from either end, and its cost is bounded by
the lengths of the texts.  The least cost of all alignments of two texts that begin with a
character each follows from those of their rests (`LeastCost.cons`, `LeastCost.exchanged`).
-/

set_option autoImplicit false

namespace ChatOps.Text

/-! ## Reading alignments otherwise -/

namespace Alignment

variable {left right : List Char} {cost : Nat}

/-- What is removed from one text is added to the other. -/
theorem swap (alignment : Alignment left right cost) : Alignment right left cost := by
  induction alignment with
  | done => exact .done
  | keep c _ inductionHypothesis => exact .keep c inductionHypothesis
  | change c d _ inductionHypothesis => exact .change d c inductionHypothesis
  | remove c _ inductionHypothesis => exact .add c inductionHypothesis
  | add d _ inductionHypothesis => exact .remove d inductionHypothesis
  | exchange c d _ inductionHypothesis => exact .exchange d c inductionHypothesis

theorem append {moreLeft moreRight : List Char} {moreCost : Nat}
    (first : Alignment left right cost) (second : Alignment moreLeft moreRight moreCost) :
    Alignment (left ++ moreLeft) (right ++ moreRight) (cost + moreCost) := by
  induction first with
  | done =>
      rw [Nat.zero_add]
      exact second
  | keep c _ inductionHypothesis => exact .keep c inductionHypothesis
  | change c d _ inductionHypothesis =>
      rw [Nat.add_right_comm]
      exact .change c d inductionHypothesis
  | remove c _ inductionHypothesis =>
      rw [Nat.add_right_comm]
      exact .remove c inductionHypothesis
  | add d _ inductionHypothesis =>
      rw [Nat.add_right_comm]
      exact .add d inductionHypothesis
  | exchange c d _ inductionHypothesis =>
      rw [Nat.add_right_comm]
      exact .exchange c d inductionHypothesis

theorem reverse (alignment : Alignment left right cost) :
    Alignment left.reverse right.reverse cost := by
  induction alignment with
  | done => exact .done
  | keep c _ inductionHypothesis =>
      rw [List.reverse_cons, List.reverse_cons]
      exact inductionHypothesis.append (.keep c .done)
  | change c d _ inductionHypothesis =>
      rw [List.reverse_cons, List.reverse_cons]
      exact inductionHypothesis.append (.change c d .done)
  | @remove c left right cost _ inductionHypothesis =>
      rw [List.reverse_cons, ← List.append_nil right.reverse]
      exact inductionHypothesis.append (.remove c .done)
  | @add d left right cost _ inductionHypothesis =>
      rw [List.reverse_cons, ← List.append_nil left.reverse]
      exact inductionHypothesis.append (.add d .done)
  | exchange c d _ inductionHypothesis =>
      rw [List.reverse_cons, List.reverse_cons, List.append_assoc, List.reverse_cons,
        List.reverse_cons, List.append_assoc]
      exact inductionHypothesis.append (.exchange d c .done)

/-! ## Bounds -/

theorem keepAll (text : List Char) : Alignment text text 0 := by
  induction text with
  | nil => exact .done
  | cons c rest inductionHypothesis => exact .keep c inductionHypothesis

theorem addAll (text : List Char) : Alignment [] text text.length := by
  induction text with
  | nil => exact .done
  | cons d rest inductionHypothesis => exact .add d inductionHypothesis

/-- Only steps that keep a character cost nothing. -/
theorem eq_of_free (alignment : Alignment left right cost) (free : cost = 0) :
    left = right := by
  induction alignment with
  | done => rfl
  | keep c _ inductionHypothesis => rw [inductionHypothesis free]
  | change | remove | add | exchange => cases free

/-- The lengths differ by at most one for each step that costs. -/
theorem length_le (alignment : Alignment left right cost) :
    left.length ≤ right.length + cost := by
  induction alignment with
  | done => exact Nat.le_refl 0
  | keep | change | remove | add | exchange => simp only [List.length_cons]; omega

/-- No more edits are needed than the longer text has characters. -/
theorem exists_le_max (left right : List Char) :
    ∃ cost ≤ max left.length right.length, Alignment left right cost := by
  induction left generalizing right with
  | nil => exact ⟨right.length, le_max_right _ _, addAll right⟩
  | cons c left inductionHypothesis =>
      cases right with
      | nil => exact ⟨(c :: left).length, le_max_left _ _, (addAll (c :: left)).swap⟩
      | cons d right =>
          obtain ⟨cost, bound, alignment⟩ := inductionHypothesis right
          refine ⟨cost + 1, ?_, .change c d alignment⟩
          simp only [List.length_cons]
          omega

end Alignment

/-! ## Least costs -/

/-- Whether no alignment of two texts costs less, and one costs as much. -/
def LeastCost (left right : List Char) (cost : Nat) : Prop :=
  IsLeast {cost | Alignment left right cost} cost

namespace LeastCost

variable {left right : List Char} {cost : Nat}

theorem of_forall_le (alignment : Alignment left right cost)
    (least : ∀ other, Alignment left right other → cost ≤ other) :
    LeastCost left right cost :=
  ⟨alignment, fun other => least other⟩

theorem alignment (least : LeastCost left right cost) : Alignment left right cost := least.1

theorem le (least : LeastCost left right cost) {other : Nat}
    (alignment : Alignment left right other) : cost ≤ other := least.2 alignment

theorem swap (least : LeastCost left right cost) : LeastCost right left cost :=
  of_forall_le least.alignment.swap fun _ alignment => least.le alignment.swap

theorem reverse (least : LeastCost left right cost) :
    LeastCost left.reverse right.reverse cost := by
  refine of_forall_le least.alignment.reverse fun other alignment => ?_
  have forward := alignment.reverse
  rw [List.reverse_reverse, List.reverse_reverse] at forward
  exact least.le forward

theorem le_max (least : LeastCost left right cost) :
    cost ≤ max left.length right.length := by
  obtain ⟨other, bound, alignment⟩ := Alignment.exists_le_max left right
  exact le_trans (least.le alignment) bound

theorem nil_left (right : List Char) : LeastCost [] right right.length := by
  refine of_forall_le (Alignment.addAll right) fun other alignment => ?_
  have bound := alignment.swap.length_le
  rwa [List.length_nil, Nat.zero_add] at bound

theorem nil_right (left : List Char) : LeastCost left [] left.length := (nil_left left).swap

/-- The cheaper of removing the first character of one text, adding that of the other, and
keeping or changing it. -/
def step (c d : Char) (removed added changed : Nat) : Nat :=
  min (min (removed + 1) (added + 1)) (changed + if c = d then 0 else 1)

variable {c d : Char} {removed added changed : Nat}

theorem exists_step (removal : LeastCost left (d :: right) removed)
    (addition : LeastCost (c :: left) right added) (diagonal : LeastCost left right changed) :
    Alignment (c :: left) (d :: right) (step c d removed added changed) := by
  have diagonalStep :
      Alignment (c :: left) (d :: right) (changed + if c = d then 0 else 1) := by
    by_cases same : c = d
    · subst same
      rw [if_pos rfl]
      exact .keep c diagonal.alignment
    · rw [if_neg same]
      exact .change c d diagonal.alignment
  rw [step]
  rcases min_choice (min (removed + 1) (added + 1))
    (changed + if c = d then 0 else 1) with cheapest | cheapest
  · rw [cheapest]
    rcases min_choice (removed + 1) (added + 1) with cheaper | cheaper
    · rw [cheaper]
      exact .remove c removal.alignment
    · rw [cheaper]
      exact .add d addition.alignment
  · rw [cheapest]
    exact diagonalStep

/-- An alignment that does not begin with an exchange costs at least the cheapest of the
other steps. -/
theorem step_le (removal : LeastCost left (d :: right) removed)
    (addition : LeastCost (c :: left) right added) (diagonal : LeastCost left right changed)
    (alignment : Alignment (c :: left) (d :: right) cost) :
    step c d removed added changed ≤ cost ∨
      ∃ lefts rights rest, left = d :: lefts ∧ right = c :: rights ∧ cost = rest + 1 ∧
        Alignment lefts rights rest := by
  rw [step]
  cases alignment with
  | keep _ rest =>
      have bound := diagonal.le rest
      rw [if_pos rfl]
      exact .inl (by omega)
  | change _ _ rest =>
      have bound := diagonal.le rest
      refine .inl ?_
      split <;> omega
  | remove _ rest =>
      have bound := removal.le rest
      exact .inl (by omega)
  | add _ rest =>
      have bound := addition.le rest
      exact .inl (by omega)
  | exchange _ _ rest => exact .inr ⟨_, _, _, rfl, rfl, rfl, rest⟩

/-- Where no exchange is possible, the cheapest of the other steps is best. -/
theorem cons (removal : LeastCost left (d :: right) removed)
    (addition : LeastCost (c :: left) right added) (diagonal : LeastCost left right changed)
    (ordinary : ¬ (left.head? = some d ∧ right.head? = some c)) :
    LeastCost (c :: left) (d :: right) (step c d removed added changed) := by
  refine of_forall_le (exists_step removal addition diagonal) fun other alignment => ?_
  rcases step_le removal addition diagonal alignment with bound | exchange
  · exact bound
  · obtain ⟨_, _, _, leftShape, rightShape, _⟩ := exchange
    exact absurd ⟨by rw [leftShape]; rfl, by rw [rightShape]; rfl⟩ ordinary

/-- Where an exchange is possible, it may be cheaper than every other step. -/
theorem exchanged {rest : Nat} (removal : LeastCost (d :: left) (d :: c :: right) removed)
    (addition : LeastCost (c :: d :: left) (c :: right) added)
    (diagonal : LeastCost (d :: left) (c :: right) changed)
    (behind : LeastCost left right rest) :
    LeastCost (c :: d :: left) (d :: c :: right)
      (min (step c d removed added changed) (rest + 1)) := by
  refine of_forall_le ?_ fun other alignment => ?_
  · rcases min_choice (step c d removed added changed) (rest + 1) with cheaper | cheaper
    · rw [cheaper]
      exact exists_step removal addition diagonal
    · rw [cheaper]
      exact .exchange c d behind.alignment
  · rcases step_le removal addition diagonal alignment with bound | exchange
    · exact le_trans (min_le_left _ _) bound
    · obtain ⟨_, _, cost, leftShape, rightShape, total, alignmentBehind⟩ := exchange
      cases leftShape
      cases rightShape
      have bound := behind.le alignmentBehind
      omega

end LeastCost

end ChatOps.Text
