import ChatOps.Proofs.Text.Alignment

/-!
# The table of edit distances

Each cell of the table holds the least cost of aligning a beginning of the first text with
one of the second.  The beginnings are read backwards here, since a cell is filled from the
cells of the beginnings that lack a last character.  Filling the table with sums and cells
that may be missing succeeds (`distance_checked`), and the table of the distance is filled
likewise (`distance_saturating`), so the distance is the least cost of all alignments.
-/

set_option autoImplicit false

namespace ChatOps.Text

/-- Neither a cell outside its row nor a sum above the limit is there. -/
def checked (limit : Nat) : Arithmetic Option where
  cell row column := row[column]?
  sum left right := if left + right ≤ limit then some (left + right) else none

/-- One more than a least cost is within a limit above both lengths. -/
theorem LeastCost.sum_checked {limit cost more : Nat} {left right : List Char}
    (least : LeastCost left right cost) (leftFits : left.length < limit)
    (rightFits : right.length < limit) (single : more ≤ 1) :
    (checked limit).sum cost more = some (cost + more) := by
  have bound := least.le_max
  have fits : cost + more ≤ limit := by omega
  exact if_pos fits

/-! ## What holds of the rows -/

/-- The first cells of the row of a text, up to a column: each holds the least cost for a
beginning of the text on the top. -/
structure RowOf (done right : List Char) (column : Nat) (row : Array Nat) : Prop where
  size : row.size = column + 1
  least : ∀ place cost, row[place]? = some cost →
    LeastCost done (right.take place).reverse cost

theorem RowOf.cell {done right : List Char} {column place : Nat} {row : Array Nat}
    (rowOf : RowOf done right column row) (inside : place ≤ column) (limit : Nat) :
    ∃ cost, (checked limit).cell row place = some cost ∧
      LeastCost done (right.take place).reverse cost := by
  have bound : place < row.size := by
    rw [rowOf.size]
    omega
  exact ⟨row[place], Array.getElem?_eq_getElem bound,
    rowOf.least place _ (Array.getElem?_eq_getElem bound)⟩

theorem RowOf.push {done right : List Char} {column cost : Nat} {row : Array Nat}
    (rowOf : RowOf done right column row)
    (least : LeastCost done (right.take (column + 1)).reverse cost) :
    RowOf done right (column + 1) (row.push cost) where
  size := by rw [Array.size_push, rowOf.size]
  least := by
    intro place other found
    rw [Array.getElem?_push, rowOf.size] at found
    split at found
    · next atEnd =>
        rw [atEnd, ← Option.some.inj found]
        exact least
    · exact rowOf.least place other found

/-- The rows in the middle of the table, after `done` characters of the left text. -/
structure Rows.Holds (done right : List Char) (rows : Rows) : Prop where
  last : rows.last = done.head?
  latest : RowOf done right right.length rows.latest
  before : ∀ c earlier, done = c :: earlier → RowOf earlier right right.length rows.before

theorem holds_firstRows (right : List Char) : (firstRows right).Holds [] right where
  last := rfl
  latest :=
    { size := by rw [firstRows, Array.size_range]
      least := by
        intro place cost found
        have least := LeastCost.nil_left (right.take place).reverse
        rw [firstRows, Array.getElem?_range] at found
        split at found
        · next inside =>
            rw [List.length_reverse, List.length_take_of_le (Nat.le_of_lt_succ inside)] at least
            rwa [← Option.some.inj found]
        · cases found }
  before := by
    intro c earlier empty
    cases empty

/-! ## Filling the table -/

theorem reverse_take_reverse (seen rest : List Char) :
    ((seen.reverse ++ rest).take seen.length).reverse = seen := by
  rw [← List.length_reverse, List.take_left, List.reverse_reverse]

theorem exchanges_iff {last other : Option Char} {c d : Char} :
    exchanges last c other d = true ↔ last = some d ∧ other = some c := by
  rw [exchanges, Bool.and_eq_true, beq_iff_eq, beq_iff_eq]

/-- The next cell holds the least cost for the texts that go on with one character each. -/
theorem nextCell_checked {limit : Nat} {rows : Rows} {done seen rest right : List Char}
    {c d : Char} {current : Array Nat} (whole : right = seen.reverse ++ d :: rest)
    (holds : rows.Holds done right) (currentOf : RowOf (c :: done) right seen.length current)
    (leftFits : done.length + 1 < limit) (rightFits : right.length < limit) :
    ∃ cost, nextCell (checked limit) rows c current seen.length seen.head? d = some cost ∧
      LeastCost (c :: done) (d :: seen) cost := by
  have seenAgain : (right.take seen.length).reverse = seen := by
    rw [whole, reverse_take_reverse]
  have seenMore : (right.take (seen.length + 1)).reverse = d :: seen := by
    have more := reverse_take_reverse (d :: seen) rest
    rwa [List.reverse_cons, List.append_assoc, List.singleton_append, ← whole] at more
  have seenLength : seen.length + 1 ≤ right.length := by
    rw [whole, List.length_append, List.length_reverse, List.length_cons]
    omega
  obtain ⟨removed, removedCell, removal⟩ := holds.latest.cell seenLength limit
  obtain ⟨added, addedCell, addition⟩ := currentOf.cell (Nat.le_refl seen.length) limit
  obtain ⟨changed, changedCell, diagonal⟩ :=
    holds.latest.cell (Nat.le_of_succ_le seenLength) limit
  rw [seenMore] at removal
  rw [seenAgain] at addition diagonal
  have doneFits : done.length < limit := Nat.lt_of_succ_lt leftFits
  have moreFits : (d :: seen).length < limit := by
    rw [List.length_cons]
    omega
  have seenFits : seen.length < limit := Nat.lt_of_succ_lt moreFits
  have removedSum := removal.sum_checked doneFits moreFits (Nat.le_refl 1)
  have addedSum := addition.sum_checked leftFits seenFits (Nat.le_refl 1)
  have changedSum := diagonal.sum_checked doneFits seenFits
    (by split <;> omega : (if c = d then 0 else 1) ≤ 1)
  by_cases exchange : exchanges rows.last c seen.head? d = true
  · obtain ⟨lastIs, otherIs⟩ := exchanges_iff.1 exchange
    rw [holds.last] at lastIs
    obtain ⟨earlier, rfl⟩ := List.head?_eq_some_iff.1 lastIs
    obtain ⟨earlierSeen, rfl⟩ := List.head?_eq_some_iff.1 otherIs
    have earlierAgain : (right.take earlierSeen.length).reverse = earlierSeen := by
      rw [whole, List.reverse_cons, List.append_assoc, reverse_take_reverse]
    have earlierLength : earlierSeen.length ≤ right.length := by
      rw [List.length_cons] at seenLength
      omega
    obtain ⟨behind, behindCell, least⟩ := (holds.before d earlier rfl).cell earlierLength limit
    rw [earlierAgain] at least
    have behindSum := least.sum_checked (Nat.lt_of_succ_lt doneFits)
      (Nat.lt_of_succ_lt seenFits) (Nat.le_refl 1)
    have behindRead :
        (checked limit).cell rows.before ((c :: earlierSeen).length - 1) = some behind :=
      behindCell
    refine ⟨_, ?_, removal.exchanged addition diagonal least⟩
    rw [nextCell, removedCell, addedCell, changedCell]
    simp only [Option.bind_eq_bind, Option.bind_some, removedSum, addedSum, changedSum,
      exchange, if_true, behindRead, behindSum]
    rfl
  · have ordinary : ¬ (done.head? = some d ∧ seen.head? = some c) := by
      rwa [← holds.last, ← exchanges_iff]
    refine ⟨_, ?_, removal.cons addition diagonal ordinary⟩
    rw [nextCell, removedCell, addedCell, changedCell]
    simp only [Option.bind_eq_bind, Option.bind_some, removedSum, addedSum, changedSum,
      exchange]
    rfl

theorem fillRow_checked {limit : Nat} {rows : Rows} {done seen rest right : List Char}
    {c : Char} {current : Array Nat} (whole : right = seen.reverse ++ rest)
    (holds : rows.Holds done right) (currentOf : RowOf (c :: done) right seen.length current)
    (leftFits : done.length + 1 < limit) (rightFits : right.length < limit) :
    ∃ row, fillRow (checked limit) rows c current seen.length seen.head? rest = some row ∧
      RowOf (c :: done) right right.length row := by
  induction rest generalizing seen current with
  | nil =>
      refine ⟨current, rfl, ?_⟩
      rwa [whole, List.append_nil, List.length_reverse, ← List.append_nil seen.reverse, ← whole]
  | cons d rest inductionHypothesis =>
      obtain ⟨cost, success, least⟩ :=
        nextCell_checked whole holds currentOf leftFits rightFits
      have wholeAgain : right = (d :: seen).reverse ++ rest := by
        rw [whole, List.reverse_cons, List.append_assoc, List.singleton_append]
      have seenMore : (right.take (seen.length + 1)).reverse = d :: seen := by
        rw [wholeAgain]
        exact reverse_take_reverse (d :: seen) rest
      have pushed : RowOf (c :: done) right (d :: seen).length (current.push cost) := by
        refine currentOf.push ?_
        rwa [seenMore]
      rw [fillRow, success]
      exact inductionHypothesis wholeAgain pushed

theorem fillTable_checked {limit : Nat} {rows : Rows} {done left right : List Char}
    (holds : rows.Holds done right) (leftFits : done.length + left.length < limit)
    (rightFits : right.length < limit) :
    ∃ final, fillTable (checked limit) right rows done.length left = some final ∧
      final.Holds (left.reverse ++ done) right := by
  induction left generalizing rows done with
  | nil => exact ⟨rows, rfl, holds⟩
  | cons c rest inductionHypothesis =>
      rw [List.length_cons] at leftFits
      have firstCell : RowOf (c :: done) right ([] : List Char).length #[done.length + 1] := by
        refine ⟨rfl, fun place cost found => ?_⟩
        obtain ⟨inside, rfl⟩ := Array.getElem?_eq_some_iff.1 found
        obtain rfl : place = 0 := Nat.lt_one_iff.1 inside
        exact LeastCost.nil_right (c :: done)
      obtain ⟨row, success, rowOf⟩ :=
        fillRow_checked (List.nil_append right).symm holds firstCell (by omega) rightFits
      have next : Rows.Holds (c :: done) right ⟨some c, rows.latest, row⟩ := by
        refine ⟨rfl, rowOf, fun d earlier same => ?_⟩
        cases same
        exact holds.latest
      obtain ⟨final, finished, finalHolds⟩ :=
        inductionHypothesis next (by rw [List.length_cons]; omega)
      refine ⟨final, ?_, ?_⟩
      · rw [fillTable]
        exact (congrArg (· >>= _) success).trans finished
      · rwa [List.reverse_cons, List.append_assoc]

/-- Where the limit is above both lengths, every cell that is read stands in its row, no sum
is above the limit, and what is found is the least cost. -/
theorem distance_checked {limit : Nat} {left right : List Char}
    (leftFits : left.length < limit) (rightFits : right.length < limit) :
    ∃ cost, distance (checked limit) left right = some cost ∧ LeastCost left right cost := by
  cases left with
  | nil => exact ⟨right.length, rfl, LeastCost.nil_left right⟩
  | cons c left =>
      cases right with
      | nil => exact ⟨(c :: left).length, rfl, LeastCost.nil_right (c :: left)⟩
      | cons d right =>
          have allFits : ([] : List Char).length + (c :: left).length < limit := by
            rwa [List.length_nil, Nat.zero_add]
          obtain ⟨rows, success, holds⟩ :=
            fillTable_checked (holds_firstRows (d :: right)) allFits rightFits
          obtain ⟨cost, found, least⟩ := holds.latest.cell (Nat.le_refl _) limit
          rw [List.append_nil, List.take_length] at least
          have forward := least.reverse
          rw [List.reverse_reverse, List.reverse_reverse] at forward
          refine ⟨cost, ?_, forward⟩
          have last : rows.latest.back? = some cost := by
            rw [Array.back?, holds.latest.size, Nat.add_sub_cancel]
            exact found
          have filled : fillTable (checked limit) (d :: right) (firstRows (d :: right)) 0
              (c :: left) = some rows := success
          rw [distance, filled]
          simp [last]

/-! ## Saturating sums -/

theorem cell_saturating {limit column cost : Nat} {row : Array Nat}
    (found : (checked limit).cell row column = some cost) :
    (saturating limit).cell row column = pure cost := by
  have inside : row[column]? = some cost := found
  simp [saturating, Array.getD_eq_getD_getElem?, inside]

theorem sum_saturating {limit left right cost : Nat}
    (fits : (checked limit).sum left right = some cost) :
    (saturating limit).sum left right = pure cost := by
  simp only [checked] at fits
  split at fits
  · next bound =>
      cases fits
      simp [saturating, Nat.min_eq_left bound]
  · cases fits

theorem nextCell_saturating {limit column cost : Nat} {rows : Rows} {c d : Char}
    {current : Array Nat} {other : Option Char}
    (success : nextCell (checked limit) rows c current column other d = some cost) :
    nextCell (saturating limit) rows c current column other d = pure cost := by
  simp only [nextCell, Option.bind_eq_bind, Option.bind_eq_some_iff] at success
  obtain ⟨_, removedCell, removed, removedSum, _, addedCell, added, addedSum, _, changedCell,
    changed, changedSum, rest⟩ := success
  simp only [nextCell, cell_saturating removedCell, sum_saturating removedSum,
    cell_saturating addedCell, sum_saturating addedSum, cell_saturating changedCell,
    sum_saturating changedSum, pure_bind]
  split at rest
  · next exchange =>
      obtain ⟨_, behindCell, rest⟩ := Option.bind_eq_some_iff.1 rest
      obtain ⟨_, behindSum, best⟩ := Option.bind_eq_some_iff.1 rest
      simp only [exchange, if_true, cell_saturating behindCell, sum_saturating behindSum,
        pure_bind]
      exact congrArg pure (Option.some.inj best)
  · next ordinary =>
      simp only [ordinary]
      exact congrArg pure (Option.some.inj rest)

theorem fillRow_saturating {limit column : Nat} {rows : Rows} {c : Char} {rest : List Char}
    {current row : Array Nat} {other : Option Char}
    (success : fillRow (checked limit) rows c current column other rest = some row) :
    fillRow (saturating limit) rows c current column other rest = pure row := by
  induction rest generalizing current column other with
  | nil => exact congrArg pure (Option.some.inj success)
  | cons d rest inductionHypothesis =>
      rw [fillRow] at success
      obtain ⟨cost, cell, filled⟩ := Option.bind_eq_some_iff.1 success
      rw [fillRow, nextCell_saturating cell, pure_bind]
      exact inductionHypothesis filled

theorem fillTable_saturating {limit done : Nat} {left right : List Char} {rows final : Rows}
    (success : fillTable (checked limit) right rows done left = some final) :
    fillTable (saturating limit) right rows done left = pure final := by
  induction left generalizing rows done with
  | nil => exact congrArg pure (Option.some.inj success)
  | cons c rest inductionHypothesis =>
      rw [fillTable] at success
      obtain ⟨row, filled, finished⟩ := Option.bind_eq_some_iff.1 success
      rw [fillTable, fillRow_saturating filled, pure_bind]
      exact inductionHypothesis finished

/-- Where no cell is missing and no sum is too large, nothing is saturated. -/
theorem distance_saturating {limit cost : Nat} {left right : List Char}
    (success : distance (checked limit) left right = some cost) :
    (distance (saturating limit) left right).run = cost := by
  rw [distance] at success ⊢
  split at success
  · next empty =>
      rw [if_pos empty]
      exact Option.some.inj success
  · next leftGiven =>
      rw [if_neg leftGiven]
      split at success
      · next empty =>
          rw [if_pos empty]
          exact Option.some.inj success
      · next rightGiven =>
          obtain ⟨rows, filled, last⟩ := Option.bind_eq_some_iff.1 success
          rw [if_neg rightGiven, fillTable_saturating filled, pure_bind]
          exact Option.some.inj last

/-! ## The distance -/

theorem length_lt_limit (left right : List Char) :
    left.length < left.length + right.length + 1 ∧
      right.length < left.length + right.length + 1 := by
  omega

theorem editDistance_eq {left right : String} {cost : Nat}
    (least : LeastCost left.toList right.toList cost) : editDistance left right = cost := by
  obtain ⟨leftFits, rightFits⟩ := length_lt_limit left.toList right.toList
  obtain ⟨found, success, foundLeast⟩ := distance_checked leftFits rightFits
  have distanceIs : editDistance left right = found := distance_saturating success
  exact distanceIs.trans (foundLeast.unique least)

theorem leastCost_editDistance (left right : String) :
    LeastCost left.toList right.toList (editDistance left right) := by
  obtain ⟨leftFits, rightFits⟩ := length_lt_limit left.toList right.toList
  obtain ⟨_, _, least⟩ := distance_checked leftFits rightFits
  rwa [editDistance_eq least]

/-- The distance is the least cost of an alignment of the two texts. -/
theorem isLeast_editDistance (left right : String) :
    IsLeast {cost | Alignment left.toList right.toList cost} (editDistance left right) := by
  obtain ⟨leftFits, rightFits⟩ := length_lt_limit left.toList right.toList
  obtain ⟨cost, success, least⟩ := distance_checked leftFits rightFits
  have distanceIs : editDistance left right = cost := distance_saturating success
  rw [distanceIs]
  exact least

example : editDistance "ca" "abc" = 3 := by decide

end ChatOps.Text
