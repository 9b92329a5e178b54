import ChatOps.Generation
import ChatOps.Proofs.Text.Ranking

/-!
# The order of branches to check out

The branches that can be checked out are offered by what their names say: `main` first, then
`develop`, then `master`, then all others.  A name may occur more than once, so the order is
said by ranks: every occurrence of a name precedes every occurrence of a lower one, and the
names of one rank stay as the repository lists them.  No other list of the same names does
this (`isRanking_checkoutOrder`).
-/

set_option autoImplicit false

namespace ChatOps.Generation

/-! ## Standings -/

/-- What a branch is by its name, the lowest standing first. -/
inductive Standing where
  | other
  | master
  | develop
  | main

namespace Standing

def ofName (name : String) : Standing :=
  if name = "main" then .main
  else if name = "develop" then .develop
  else if name = "master" then .master
  else .other

def height : Standing → Nat
  | .other => 0
  | .master => 1
  | .develop => 2
  | .main => 3

theorem height_injective : Function.Injective height := by
  intro first second same
  cases first <;> cases second <;> simp_all [height]

instance : LinearOrder Standing := LinearOrder.lift' height height_injective

theorem le_iff {first second : Standing} : first ≤ second ↔ first.height ≤ second.height :=
  Iff.rfl

end Standing

theorem branchRank_add_height (name : String) :
    branchRank name + (Standing.ofName name).height = 3 := by
  unfold Standing.ofName
  split_ifs with isMain isDevelop isMaster
  · subst isMain
    rfl
  · subst isDevelop
    rfl
  · subst isMaster
    rfl
  · have absent : name ∉ mainBranches := by simp [mainBranches, isMain, isDevelop, isMaster]
    rw [branchRank, List.idxOf_of_notMem absent]
    rfl

/-- A name stands nearer to the front of the main branches where its standing is higher. -/
theorem branchRank_le_iff {first second : String} :
    branchRank first ≤ branchRank second ↔ Standing.ofName second ≤ Standing.ofName first := by
  have firstSum := branchRank_add_height first
  have secondSum := branchRank_add_height second
  rw [Standing.le_iff]
  omega

/-! ## Branches that can be checked out -/

/-- The names of the branches that are not current, as the repository lists them. -/
def candidates (branches : List Branch) : List String :=
  (branches.filter fun branch => !branch.isCurrent).map Branch.name

theorem checkoutOrder_eq (branches : List Branch) :
    checkoutOrder branches = (candidates branches).mergeSort (ranksAbove Standing.ofName) := by
  unfold checkoutOrder candidates
  apply List.map_mergeSort
  intro first _ second _
  rw [ranksAbove, decide_eq_decide]
  exact branchRank_le_iff

/-- The branches that are not current are offered by standing, those of one standing as the
repository lists them, and no other order of their names does this. -/
theorem isRanking_checkoutOrder (branches : List Branch) :
    IsRanking (candidates branches) Standing.ofName (checkoutOrder branches) ∧
      ∀ ordered, IsRanking (candidates branches) Standing.ofName ordered →
        ordered = checkoutOrder branches := by
  rw [checkoutOrder_eq]
  have isRanking := isRanking_mergeSort (candidates branches) Standing.ofName
  refine ⟨isRanking, ?_⟩
  intro ordered isOrdered
  exact isOrdered.unique isRanking

example : checkoutOrder [⟨"topic", none, false⟩, ⟨"master", none, false⟩,
    ⟨"feature", none, true⟩, ⟨"main", none, false⟩, ⟨"fix", none, false⟩,
    ⟨"topic", none, false⟩] = ["main", "master", "topic", "fix", "topic"] := by
  cbv

end ChatOps.Generation
