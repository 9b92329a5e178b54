/-!
# Edit distance

The number of single edits between two texts, where an edit changes, removes or
inserts a character or exchanges two neighbours.  `Alignment` says what an edit
script is.  The distance is found in a table with a row for each beginning of the
first text and a column for each beginning of the second one.  Rows are filled from
the left, and only the two latest ones are kept.
-/

set_option autoImplicit false

namespace ChatOps.Text

/-- Both texts are consumed from the left by steps that cost one each, except
that a character kept costs nothing. -/
inductive Alignment : List Char → List Char → Nat → Prop where
  | done : Alignment [] [] 0
  | keep (c : Char) {left right : List Char} {cost : Nat}
      (rest : Alignment left right cost) :
      Alignment (c :: left) (c :: right) cost
  | change (c d : Char) {left right : List Char} {cost : Nat}
      (rest : Alignment left right cost) :
      Alignment (c :: left) (d :: right) (cost + 1)
  | remove (c : Char) {left right : List Char} {cost : Nat}
      (rest : Alignment left right cost) :
      Alignment (c :: left) right (cost + 1)
  | add (d : Char) {left right : List Char} {cost : Nat}
      (rest : Alignment left right cost) :
      Alignment left (d :: right) (cost + 1)
  | exchange (c d : Char) {left right : List Char} {cost : Nat}
      (rest : Alignment left right cost) :
      Alignment (c :: d :: left) (d :: c :: right) (cost + 1)

/-! ## The table -/

/-- How the cells of a row are read and how costs are added. -/
structure Arithmetic (m : Type → Type) where
  cell : Array Nat → Nat → m Nat
  sum : Nat → Nat → m Nat

/-- A cell outside its row costs the limit, and sums stop at the limit. -/
def saturating (limit : Nat) : Arithmetic Id where
  cell row column := pure (row.getD column limit)
  sum left right := pure (min (left + right) limit)

/-- The two latest rows.  `last` is the character that the latest one was filled
for; the first row is that of the empty text. -/
structure Rows where
  last : Option Char
  before : Array Nat
  latest : Array Nat

/-- The rows at the start: the costs of adding a text character by character, and
nothing before them. -/
def firstRows (right : List Char) : Rows :=
  ⟨none, Array.replicate (right.length + 1) 0, Array.range (right.length + 1)⟩

/-- Whether two characters, each behind another one, are each other's exchange. -/
def exchanges (last : Option Char) (c : Char) (other : Option Char) (d : Char) : Bool :=
  last == some d && other == some c

section

variable {m : Type → Type} [Monad m] (costs : Arithmetic m)

/-- The cell behind the one at `column` in the row of `c`, where the text on the top
goes on from `other` with `d`. -/
@[specialize] def nextCell (rows : Rows) (c : Char) (current : Array Nat) (column : Nat)
    (other : Option Char) (d : Char) : m Nat := do
  let removed ← costs.sum (← costs.cell rows.latest (column + 1)) 1
  let added ← costs.sum (← costs.cell current column) 1
  let changed ← costs.sum (← costs.cell rows.latest column) (if c = d then 0 else 1)
  let best := min (min removed added) changed
  if exchanges rows.last c other d then do
    let exchanged ← costs.sum (← costs.cell rows.before (column - 1)) 1
    pure (min best exchanged)
  else pure best

/-- The row of `c` when the cells up to `column` are filled. -/
@[specialize] def fillRow (rows : Rows) (c : Char) :
    Array Nat → Nat → Option Char → List Char → m (Array Nat)
  | current, _, _, [] => pure current
  | current, column, other, d :: rest => do
      let cell ← nextCell costs rows c current column other d
      fillRow rows c (current.push cell) (column + 1) (some d) rest

/-- The latest rows after all of the left text, of which `done` characters are
behind. -/
@[specialize] def fillTable (right : List Char) : Rows → Nat → List Char → m Rows
  | rows, _, [] => pure rows
  | rows, done, c :: rest => do
      let current ← fillRow costs rows c #[done + 1] 0 none right
      fillTable right ⟨some c, rows.latest, current⟩ (done + 1) rest

/-- The distance of two texts, which is in the last cell of the table. -/
@[specialize] def distance (left right : List Char) : m Nat :=
  if left.isEmpty then pure right.length
  else if right.isEmpty then pure left.length
  else do
    let rows ← fillTable costs right (firstRows right) 0 left
    pure (rows.latest.back?.getD 0)

end

/-- The edit distance; no alignment costs as much as the limit used. -/
def editDistance (left right : String) : Nat :=
  (distance (saturating (left.toList.length + right.toList.length + 1)) left.toList
    right.toList).run

end ChatOps.Text
