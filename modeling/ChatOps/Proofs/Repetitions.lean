import Mathlib.Data.List.Basic
import Mathlib.Data.List.Nodup

/-!
# Leaving out repetitions

Of equal items of a list only the first is left.  This commutes with leaving out what is not
wanted, if that respects equality (`filter_eraseDupsBy`), and nothing is left twice
(`pairwise_eraseDupsBy`).
-/

set_option autoImplicit false

namespace ChatOps

variable {Item : Type} {same : Item → Item → Bool}

/-- Leaving out what is not kept commutes with leaving out repetitions, if of two equal
items the first is kept whenever the second is. -/
theorem filter_eraseDupsBy {keep : Item → Bool}
    (closed : ∀ first second, same second first = true → keep second = true →
      keep first = true) : (items : List Item) →
    (items.eraseDupsBy same).filter keep = (items.filter keep).eraseDupsBy same
  | [] => rfl
  | first :: rest => by
      have shorter := filter_eraseDupsBy closed
        (rest.filter fun other => decide (same other first = false))
      rw [List.eraseDupsBy_cons, List.filter_cons, shorter]
      cases kept : keep first with
      | true =>
          rw [if_pos rfl, List.filter_cons, if_pos kept, List.eraseDupsBy_cons,
            List.filter_comm]
      | false =>
          -- What the first item would have taken along is not kept either.
          have apart : ∀ other ∈ rest.filter keep, decide (same other first = false) = true := by
            intro other member
            by_contra equal
            have isSame : same other first = true := by simpa using equal
            have keepsFirst := closed first other isSame (List.mem_filter.1 member).2
            rw [kept] at keepsFirst
            cases keepsFirst
          rw [if_neg Bool.false_ne_true, List.filter_cons, kept, if_neg Bool.false_ne_true,
            List.filter_comm, List.filter_eq_self.2 apart]
  termination_by items => items.length
  decreasing_by exact Nat.lt_succ_of_le (List.length_filter_le _ rest)

theorem mem_of_mem_eraseDupsBy {item : Item} : {items : List Item} →
    item ∈ items.eraseDupsBy same → item ∈ items
  | [], member => member
  | first :: rest, member => by
      rw [List.eraseDupsBy_cons] at member
      rcases List.mem_cons.1 member with rfl | later
      · exact List.mem_cons_self
      · exact List.mem_cons_of_mem first
          (List.mem_of_mem_filter (mem_of_mem_eraseDupsBy later))
  termination_by items => items.length
  decreasing_by exact Nat.lt_succ_of_le (List.length_filter_le _ rest)

/-- No two of the items that are left are equal. -/
theorem pairwise_eraseDupsBy : (items : List Item) →
    (items.eraseDupsBy same).Pairwise fun earlier later => same later earlier = false
  | [] => .nil
  | first :: rest => by
      rw [List.eraseDupsBy_cons]
      refine List.pairwise_cons.2 ⟨?_, pairwise_eraseDupsBy _⟩
      intro later member
      have kept := List.mem_filter.1 (mem_of_mem_eraseDupsBy member)
      exact of_decide_eq_true kept.2
  termination_by items => items.length
  decreasing_by exact Nat.lt_succ_of_le (List.length_filter_le _ rest)

theorem nodup_eraseDups [BEq Item] [LawfulBEq Item] (items : List Item) :
    items.eraseDups.Nodup := by
  refine (pairwise_eraseDupsBy items).imp ?_
  rintro earlier later different rfl
  rw [beq_self_eq_true] at different
  cases different

end ChatOps
