import ChatOps.Text.Nearest
import Mathlib.Data.List.Nodup
import Mathlib.Order.Lattice

/-!
# The best of a table

A table is cut down to what fits, sorted by rank and cut off after a few items.  Because
the sorting keeps items of the same rank in the order of the table, this determines what is
chosen (`best_take_mergeSort`).  Names are ranked by their distance from a text, and since
no two of them are equal, nothing is left to the order in which they are given
(`nearestFirst_nearest`).  A whole table, in which an item may occur more than once, is sorted
into the only list of its items with higher ranks first and each rank as it was
(`isRanking_mergeSort`, `IsRanking.unique`).
-/

set_option autoImplicit false

namespace ChatOps

/-! ## Ranks -/

section Ranks

variable {Item Rank : Type} [LinearOrder Rank]

/-- Whether an item of a table goes before another one: it ranks higher, or as high and the
table has it first. -/
def GoesBefore (table : List Item) (rank : Item → Rank) (first second : Item) : Prop :=
  rank second < rank first ∨ (rank first = rank second ∧ [first, second].Sublist table)

/-- Whether these are the best of the items of a table that fit, the best one first, and not
more than the limit.  Something that fits is left out only where the limit is reached. -/
structure Best (table : List Item) (rank : Item → Rank) (fits : Item → Prop) (limit : Nat)
    (chosen : List Item) : Prop where
  few : chosen.length ≤ limit
  fitting : ∀ item ∈ chosen, item ∈ table ∧ fits item
  ordered : chosen.Pairwise (GoesBefore table rank)
  complete : ∀ item ∈ table, fits item → item ∉ chosen →
    chosen.length = limit ∧ ∀ better ∈ chosen, GoesBefore table rank better item

/-- Whether an item ranks at least as high as another one. -/
def ranksAbove (rank : Item → Rank) (first second : Item) : Bool :=
  decide (rank second ≤ rank first)

variable {table : List Item} {rank : Item → Rank}

theorem GoesBefore.le {first second : Item} (before : GoesBefore table rank first second) :
    rank second ≤ rank first := by
  rcases before with lower | ⟨same, _⟩
  · exact lower.le
  · exact same.ge

theorem ranksAbove_trans (first second third : Item)
    (upper : ranksAbove rank first second = true)
    (lower : ranksAbove rank second third = true) : ranksAbove rank first third = true :=
  decide_eq_true ((of_decide_eq_true lower).trans (of_decide_eq_true upper))

theorem ranksAbove_total (first second : Item) :
    (ranksAbove rank first second || ranksAbove rank second first) = true := by
  rw [Bool.or_eq_true, ranksAbove, ranksAbove, decide_eq_true_eq, decide_eq_true_eq]
  exact le_total _ _

theorem sorted_mergeSort_ranksAbove (table : List Item) (rank : Item → Rank) :
    (table.mergeSort (ranksAbove rank)).Pairwise (ranksAbove rank · · = true) :=
  List.pairwise_mergeSort ranksAbove_trans ranksAbove_total table

/-- Sorting by rank leaves the items of each rank in their order, however often they occur. -/
theorem filter_mergeSort_ranksAbove (table : List Item) (rank : Item → Rank) (value : Rank) :
    (table.mergeSort (ranksAbove rank)).filter (rank · = value) =
      table.filter (rank · = value) := by
  have ofValue {item : Item} (member : item ∈ table.filter (rank · = value)) :
      rank item = value :=
    of_decide_eq_true (List.mem_filter.1 member).2
  -- Items of one rank are sorted as they are, so sorting the table keeps them as a sublist.
  have tied : (table.filter (rank · = value)).Pairwise (ranksAbove rank · · = true) :=
    List.pairwise_of_forall_mem_list fun first firstMember second secondMember =>
      decide_eq_true ((ofValue secondMember).trans (ofValue firstMember).symm).le
  have kept : (table.filter (rank · = value)).Sublist (table.mergeSort (ranksAbove rank)) :=
    List.sublist_mergeSort ranksAbove_trans ranksAbove_total tied List.filter_sublist
  have keptOfValue := kept.filter (rank · = value)
  rw [List.filter_filter] at keptOfValue
  simp only [Bool.and_self] at keptOfValue
  have sameLength := ((List.mergeSort_perm table (ranksAbove rank)).filter
    (rank · = value)).length_eq
  exact (keptOfValue.eq_of_length sameLength.symm).symm

/-- Sorting by rank lists items in the order in which they go before each other. -/
theorem pairwise_mergeSort_ranksAbove (table : List Item) (rank : Item → Rank) :
    (table.mergeSort (ranksAbove rank)).Pairwise (GoesBefore table rank) := by
  have sorted := sorted_mergeSort_ranksAbove table rank
  rw [List.pairwise_iff_forall_sublist] at sorted ⊢
  intro first second pair
  have le : rank second ≤ rank first := of_decide_eq_true (sorted pair)
  rcases le.lt_or_eq with lower | same
  · exact .inl lower
  · have ofRank := pair.filter (rank · = rank first)
    rw [filter_mergeSort_ranksAbove, List.filter_eq_self.2 (by simp [same])] at ofRank
    exact .inr ⟨same.symm, ofRank.trans List.filter_sublist⟩

/-- What fits, sorted by rank and cut off at a limit, is the best of a table. -/
theorem best_take_mergeSort (table : List Item) (rank : Item → Rank) (fits : Item → Bool)
    (limit : Nat) :
    Best table rank (fits · = true) limit
      (((table.filter fits).mergeSort (ranksAbove rank)).take limit) := by
  have kept : (table.filter fits).Sublist table := List.filter_sublist
  have ordered : ((table.filter fits).mergeSort (ranksAbove rank)).Pairwise
      (GoesBefore table rank) :=
    (pairwise_mergeSort_ranksAbove (table.filter fits) rank).imp fun before =>
      before.imp_right fun both => ⟨both.1, both.2.trans kept⟩
  have member (item : Item) : item ∈ (table.filter fits).mergeSort (ranksAbove rank) ↔
      item ∈ table ∧ fits item = true :=
    List.mem_mergeSort.trans List.mem_filter
  refine ⟨List.length_take_le _ _, ?_, ordered.sublist (List.take_sublist _ _), ?_⟩
  · intro item chosen
    exact (member item).1 (List.mem_of_mem_take chosen)
  · intro item inTable fitting leftOut
    have sortedMember := (member item).2 ⟨inTable, fitting⟩
    rw [← List.take_append_drop limit ((table.filter fits).mergeSort _)] at ordered sortedMember
    have dropped := (List.mem_append.1 sortedMember).resolve_left leftOut
    refine ⟨?_, fun better chosen =>
      (List.pairwise_append.1 ordered).2.2 better chosen item dropped⟩
    rw [List.length_take]
    have some := List.length_pos_of_mem dropped
    rw [List.length_drop] at some
    omega

variable {fits : Item → Prop} {limit : Nat} {chosen : List Item}

theorem Best.nodup (best : Best table rank fits limit chosen) (once : table.Nodup) :
    chosen.Nodup := by
  refine best.ordered.imp ?_
  rintro item _ before rfl
  rcases before with lower | ⟨_, twice⟩
  · exact lt_irrefl _ lower
  · exact List.nodup_iff_sublist.1 once item twice

/-- An item that ranks above all others is chosen first. -/
theorem Best.head?_eq (best : Best table rank fits limit chosen) (positive : 0 < limit)
    {item : Item} (inTable : item ∈ table) (fitting : fits item)
    (highest : ∀ other ∈ table, other ≠ item → rank other < rank item) :
    chosen.head? = some item := by
  have notBefore : ∀ other ∈ chosen, GoesBefore table rank other item → other = item := by
    intro other isChosen before
    by_contra different
    exact absurd (highest other (best.fitting other isChosen).1 different) before.le.not_gt
  have isChosen : item ∈ chosen := by
    by_contra leftOut
    obtain ⟨full, before⟩ := best.complete item inTable fitting leftOut
    obtain ⟨other, isOther⟩ := List.exists_mem_of_length_pos (full ▸ positive)
    exact leftOut (notBefore other isOther (before other isOther) ▸ isOther)
  cases chosen with
  | nil => cases isChosen
  | cons head rest =>
      rcases List.mem_cons.1 isChosen with rfl | later
      · rfl
      · have before := (List.pairwise_cons.1 best.ordered).1 item later
        rw [List.head?_cons, notBefore head List.mem_cons_self before]

end Ranks

/-! ## Whole tables -/

section Tables

variable {Item Rank : Type} [LinearOrder Rank] {table : List Item} {rank : Item → Rank}

/-- Whether one item stands before another one wherever the two occur. -/
def Precedes (items : List Item) (first second : Item) : Prop :=
  ∀ i j : Nat, items[i]? = some first → items[j]? = some second → i < j

/-- Whether these are the items of a table sorted by rank, the highest rank first, with the
items of each rank as the table has them. -/
structure IsRanking (table : List Item) (rank : Item → Rank) (ordered : List Item) : Prop where
  perm : ordered.Perm table
  precedes : ∀ first second, rank second < rank first → Precedes ordered first second
  stable : ∀ value, ordered.filter (rank · = value) = table.filter (rank · = value)

/-- Higher ranks precede lower ones if and only if no item stands behind one of a lower rank. -/
theorem precedes_iff_pairwise {items : List Item} :
    (∀ first second, rank second < rank first → Precedes items first second) ↔
      items.Pairwise (ranksAbove rank · · = true) := by
  rw [List.pairwise_iff_getElem]
  constructor
  · intro precedes i j inRange laterInRange before
    refine decide_eq_true (not_lt.1 fun higher => ?_)
    have after : j < i := precedes items[j] items[i] higher j i
      (List.getElem?_eq_getElem laterInRange) (List.getElem?_eq_getElem inRange)
    exact lt_asymm before after
  · intro sorted first second higher i j isFirst isSecond
    obtain ⟨inRange, rfl⟩ := List.getElem?_eq_some_iff.1 isFirst
    obtain ⟨otherInRange, rfl⟩ := List.getElem?_eq_some_iff.1 isSecond
    rcases Nat.lt_trichotomy i j with before | rfl | after
    · exact before
    · exact absurd higher (lt_irrefl _)
    · have le : rank items[i] ≤ rank items[j] :=
        of_decide_eq_true (sorted j i otherInRange inRange after)
      exact absurd higher le.not_gt

theorem isRanking_mergeSort (table : List Item) (rank : Item → Rank) :
    IsRanking table rank (table.mergeSort (ranksAbove rank)) where
  perm := List.mergeSort_perm table _
  precedes := precedes_iff_pairwise.2 (sorted_mergeSort_ranksAbove table rank)
  stable := filter_mergeSort_ranksAbove table rank

theorem le_head_of_sorted {head item : Item} {rest : List Item}
    (sorted : (head :: rest).Pairwise (ranksAbove rank · · = true))
    (member : item ∈ head :: rest) : rank item ≤ rank head := by
  rcases List.mem_cons.1 member with rfl | later
  · exact le_rfl
  · exact of_decide_eq_true ((List.pairwise_cons.1 sorted).1 item later)

section Selections

variable {first second : List Item}

theorem mem_iff_of_filter_rank
    (same : ∀ value, first.filter (rank · = value) = second.filter (rank · = value))
    (item : Item) : item ∈ first ↔ item ∈ second := by
  have sameMember : item ∈ first.filter (rank · = rank item) ↔
      item ∈ second.filter (rank · = rank item) := by rw [same]
  simpa using sameMember

theorem filter_eq_of_filter_cons {keep : Item → Bool} {head : Item}
    (same : (head :: first).filter keep = (head :: second).filter keep) :
    first.filter keep = second.filter keep := by
  rw [List.filter_cons, List.filter_cons] at same
  split at same
  · exact (List.cons.inj same).2
  · exact same

/-- Sorted lists with the same items of each rank, in the same order, are equal. -/
theorem eq_of_filter_rank (firstSorted : first.Pairwise (ranksAbove rank · · = true))
    (secondSorted : second.Pairwise (ranksAbove rank · · = true))
    (same : ∀ value, first.filter (rank · = value) = second.filter (rank · = value)) :
    first = second := by
  have mem_iff := mem_iff_of_filter_rank same
  induction first generalizing second with
  | nil =>
      cases second with
      | nil => rfl
      | cons other others => exact absurd ((mem_iff other).2 List.mem_cons_self) List.not_mem_nil
  | cons head rest inductionHypothesis =>
      cases second with
      | nil => exact absurd ((mem_iff head).1 List.mem_cons_self) List.not_mem_nil
      | cons other others =>
          -- Either head ranks at least as high as the other, so both lead the items of one rank.
          have sameRank : rank head = rank other := le_antisymm
            (le_head_of_sorted secondSorted ((mem_iff head).1 List.mem_cons_self))
            (le_head_of_sorted firstSorted ((mem_iff other).2 List.mem_cons_self))
          have sameHead : head = other := by
            have ofRank := same (rank other)
            rw [List.filter_cons, List.filter_cons, if_pos (decide_eq_true sameRank),
              if_pos (decide_eq_true rfl)] at ofRank
            exact (List.cons.inj ofRank).1
          subst sameHead
          have sameRest : ∀ value,
              rest.filter (rank · = value) = others.filter (rank · = value) :=
            fun value => filter_eq_of_filter_cons (same value)
          rw [inductionHypothesis (List.pairwise_cons.1 firstSorted).2
            (List.pairwise_cons.1 secondSorted).2 sameRest (mem_iff_of_filter_rank sameRest)]

/-- A table has only one ranking. -/
theorem IsRanking.unique (isFirst : IsRanking table rank first)
    (isSecond : IsRanking table rank second) : first = second :=
  eq_of_filter_rank (precedes_iff_pairwise.1 isFirst.precedes)
    (precedes_iff_pairwise.1 isSecond.precedes)
    fun value => (isFirst.stable value).trans (isSecond.stable value).symm

end Selections

end Tables

/-! ## Names by their distance -/

namespace Text

/-- Whether a name is nearer to a text than another one, or as near and first in the order
of names. -/
def Nearer (text first second : String) : Prop :=
  editDistance text first < editDistance text second ∨
    (editDistance text first = editDistance text second ∧ first < second)

/-- Whether these are the names of a kind, the nearest to a text first. -/
structure NearestFirst (text : String) (known : String → Prop) (ordered : List String) :
    Prop where
  mem_iff : ∀ name, name ∈ ordered ↔ known name
  sorted : ordered.Pairwise (Nearer text)

theorem NearestFirst.filter {text : String} {known : String → Prop} {ordered : List String}
    (nearestFirst : NearestFirst text known ordered) (keep : String → Bool) :
    NearestFirst text (fun name => known name ∧ keep name = true) (ordered.filter keep) where
  mem_iff := by
    intro name
    rw [List.mem_filter, nearestFirst.mem_iff]
  sorted := nearestFirst.sorted.filter keep

theorem Ranked.before_iff {first second : Ranked} :
    first.before second = true ↔
      first.distance < second.distance ∨
        (first.distance = second.distance ∧ first.name ≤ second.name) := by
  simp [before]

theorem Ranked.before_trans (first second third : Ranked)
    (upper : first.before second = true) (lower : second.before third = true) :
    first.before third = true := by
  rw [before_iff] at upper lower ⊢
  rcases upper with nearer | ⟨same, le⟩
  · exact .inl (by omega)
  · rcases lower with nearer | ⟨sameAgain, leAgain⟩
    · exact .inl (by omega)
    · exact .inr ⟨same.trans sameAgain, String.le_trans le leAgain⟩

theorem Ranked.before_total (first second : Ranked) :
    (first.before second || second.before first) = true := by
  rw [Bool.or_eq_true, before_iff, before_iff]
  rcases Nat.lt_trichotomy first.distance second.distance with nearer | same | farther
  · exact .inl (.inl nearer)
  · exact (String.le_total first.name second.name).imp (fun le => .inr ⟨same, le⟩)
      (fun le => .inr ⟨same.symm, le⟩)
  · exact .inr (.inl farther)

theorem mem_nearest_iff {text : String} {names : List String} {ranked : Ranked} :
    ranked ∈ nearest text names ↔
      ranked.name ∈ names ∧ ranked.distance = editDistance text ranked.name := by
  rw [nearest, List.mem_mergeSort, List.mem_map]
  constructor
  · rintro ⟨name, member, rfl⟩
    exact ⟨member, rfl⟩
  · rintro ⟨member, measured⟩
    exact ⟨ranked.name, member, by rw [← measured]⟩

theorem map_name_nearest_perm (text : String) (names : List String) :
    ((nearest text names).map Ranked.name).Perm names := by
  have permuted := (List.mergeSort_perm
    (names.map fun name => (⟨editDistance text name, name⟩ : Ranked)) Ranked.before).map
      Ranked.name
  rw [List.map_map] at permuted
  exact permuted.trans (.of_eq (List.map_id names))

theorem nearestFirst_nearest (text : String) {names : List String} (once : names.Nodup) :
    NearestFirst text (· ∈ names) ((nearest text names).map Ranked.name) where
  mem_iff := fun _ => (map_name_nearest_perm text names).mem_iff
  sorted := by
    have apart := List.pairwise_map.1 ((map_name_nearest_perm text names).nodup_iff.2 once)
    have sorted : (nearest text names).Pairwise (Ranked.before · · = true) :=
      List.pairwise_mergeSort Ranked.before_trans Ranked.before_total _
    rw [List.pairwise_map]
    refine (apart.and sorted).imp_of_mem ?_
    rintro first second firstMember secondMember ⟨different, before⟩
    rw [Ranked.before_iff, (mem_nearest_iff.1 firstMember).2,
      (mem_nearest_iff.1 secondMember).2] at before
    exact before.imp_right fun both => ⟨both.1, Std.lt_of_le_of_ne both.2 different⟩

end Text

end ChatOps
