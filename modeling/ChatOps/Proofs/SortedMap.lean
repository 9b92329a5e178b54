import ChatOps.SortedMap
import Mathlib.Algebra.Ring.Nat

/-!
# Entries of sorted maps

A map is rebuilt from its own entries: storing entries in increasing order of their
keys lists them as they are (`entries_ofList`).  Whatever entries are measured by, a
map never measures more than all that was stored in it.
-/

set_option autoImplicit false

namespace ChatOps.SortedMap

universe u v

variable {Key : Type u} {Value : Type v} [Ord Key] [Std.TransOrd Key]

theorem place_of_after {key : Key} {value : Value} {entries : List (Key × Value)}
    (after : ∀ entry ∈ entries, compare entry.1 key = .lt) :
    place key value entries = entries ++ [(key, value)] := by
  induction entries with
  | nil => rfl
  | cons head rest inductionHypothesis =>
      have headAfter : compare key head.1 = .gt :=
        Std.OrientedCmp.gt_iff_lt.2 (after head List.mem_cons_self)
      have placed := inductionHypothesis fun entry member =>
        after entry (List.mem_cons_of_mem head member)
      rw [place, headAfter]
      simp only [placed, List.cons_append]

theorem entries_insertMany {map : SortedMap Key Value} {more : List (Key × Value)}
    (sorted : (map.entries ++ more).Pairwise
      fun left right => compare left.1 right.1 = .lt) :
    (map.insertMany more).entries = map.entries ++ more := by
  induction more generalizing map with
  | nil => simp [insertMany]
  | cons entry rest inductionHypothesis =>
      have after := (List.pairwise_append.1 sorted).2.2
      have placed : (map.insert entry.1 entry.2).entries = map.entries ++ [entry] :=
        place_of_after fun earlier member =>
          after earlier member entry List.mem_cons_self
      have stored := @inductionHypothesis (map.insert entry.1 entry.2)
        (by rw [placed]; simpa using sorted)
      rw [placed] at stored
      simpa [insertMany] using stored

/-- Entries in increasing order of their keys are listed as they are stored. -/
theorem entries_ofList {entries : List (Key × Value)}
    (sorted : entries.Pairwise fun left right => compare left.1 right.1 = .lt) :
    (ofList entries).entries = entries := by
  rw [ofList, entries_insertMany]
  · rfl
  · simpa [empty] using sorted

theorem get?_insertMany_of_notMem [Std.LawfulEqOrd Key] [DecidableEq Key] {key : Key}
    {entries : List (Key × Value)} (missing : key ∉ entries.map Prod.fst)
    (map : SortedMap Key Value) : (map.insertMany entries).get? key = map.get? key := by
  induction entries generalizing map with
  | nil => rfl
  | cons entry rest inductionHypothesis =>
      rw [List.map_cons, List.mem_cons, not_or] at missing
      obtain ⟨different, missingInRest⟩ := missing
      have inserted := inductionHypothesis missingInRest (map.insert entry.1 entry.2)
      rw [get?_insert, if_neg (Ne.symm different)] at inserted
      exact inserted

theorem get?_ofList_of_notMem [Std.LawfulEqOrd Key] [DecidableEq Key] {key : Key}
    {entries : List (Key × Value)} (missing : key ∉ entries.map Prod.fst) :
    (ofList entries).get? key = none :=
  get?_insertMany_of_notMem missing empty

/-- Where no key is stored twice, each finds what is stored under it. -/
theorem get?_ofList_of_mem [Std.LawfulEqOrd Key] [DecidableEq Key] {key : Key} {value : Value}
    {entries : List (Key × Value)} (distinct : (entries.map Prod.fst).Nodup)
    (member : (key, value) ∈ entries) : (ofList entries).get? key = some value := by
  obtain ⟨before, after, split⟩ := List.append_of_mem member
  have stored : ofList entries =
      (((empty : SortedMap Key Value).insertMany before).insert key value).insertMany after := by
    rw [split, ofList, insertMany, List.foldl_append]
    rfl
  have missing : key ∉ after.map Prod.fst := by
    rw [split, List.map_append, List.map_cons] at distinct
    exact (List.nodup_cons.1 (List.nodup_append.1 distinct).2.1).1
  rw [stored, get?_insertMany_of_notMem missing, get?_insert, if_pos rfl]

theorem nodup_keys (map : SortedMap Key Value) : map.keys.Nodup := by
  rw [keys, List.nodup_iff_pairwise_ne, List.pairwise_map]
  exact map.sorted.imp fun before => ne_of_compare_lt before

theorem mem_keys_iff [Std.LawfulEqOrd Key] (map : SortedMap Key Value) {key : Key} :
    key ∈ map.keys ↔ map.contains key = true := by
  rw [keys, contains, Option.isSome_iff_exists, List.mem_map]
  constructor
  · rintro ⟨⟨_, value⟩, member, rfl⟩
    exact ⟨value, get?_of_mem member⟩
  · rintro ⟨value, found⟩
    exact ⟨(key, value), mem_of_get? found, rfl⟩

omit [Std.TransOrd Key] in
/-- Changing the value of one key changes nothing under the others. -/
theorem get?_modify [Std.LawfulEqOrd Key] [DecidableEq Key] (map : SortedMap Key Value)
    (key other : Key) (change : Value → Value) :
    (map.modify key change).get? other =
      if key = other then (map.get? other).map change else map.get? other := by
  simp only [get?, modify]
  induction map.entries with
  | nil => simp [find?]
  | cons head rest inductionHypothesis =>
      rw [List.map_cons, find?, find?]
      cases order : compare other head.1 with
      | lt => exact inductionHypothesis
      | gt => exact inductionHypothesis
      | eq =>
          have sameKey : other = head.1 := Std.LawfulEqCmp.compare_eq_iff_eq.1 order
          by_cases same : key = other
          · simp [same, sameKey]
          · rw [sameKey] at same
            simp [same, sameKey]

theorem sum_place_le {Key : Type u} {Value : Type v} [Ord Key] (measure : Key × Value → Nat)
    (key : Key) (value : Value) (entries : List (Key × Value)) :
    ((place key value entries).map measure).sum ≤
      (entries.map measure).sum + measure (key, value) := by
  induction entries with
  | nil => simp [place]
  | cons entry rest inductionHypothesis =>
      rw [place]
      split <;> simp only [List.map_cons, List.sum_cons] <;> omega

end ChatOps.SortedMap
