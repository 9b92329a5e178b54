import ChatOps.Text.EditDistance

/-!
# Nearest names

Names with their edit distance from a text, the nearest first and equally near
ones in the order of names.
-/

set_option autoImplicit false

namespace ChatOps.Text

/-- A name and its distance. -/
structure Ranked where
  distance : Nat
  name : String
  deriving DecidableEq

/-- Whether one ranked name may stand before another. -/
def Ranked.before (left right : Ranked) : Bool :=
  decide (left.distance < right.distance) ||
    (left.distance == right.distance && decide (left.name ≤ right.name))

/-- The names ranked by their distance from a text. -/
def nearest (text : String) (names : List String) : List Ranked :=
  (names.map fun name => (⟨editDistance text name, name⟩ : Ranked)).mergeSort
    Ranked.before

end ChatOps.Text
