/-!
# Maps with ordered keys

A finite map is kept as its list of entries in strictly increasing key order,
so that two maps with the same look-ups are the same value.  The main facts are
`get?_insert`, `get?_erase` and `ext_get?`.
-/

set_option autoImplicit false

namespace ChatOps

universe u v w

/-- A finite map from `Key` to `Value`, listed in increasing order of keys. -/
structure SortedMap (Key : Type u) (Value : Type v) [Ord Key] where
  entries : List (Key × Value)
  sorted : entries.Pairwise (fun left right => compare left.1 right.1 = .lt)

namespace SortedMap

variable {Key : Type u} {Value : Type v} {Other : Type w} [Ord Key]

theorem ext_entries {left right : SortedMap Key Value}
    (same : left.entries = right.entries) : left = right := by
  cases left
  cases right
  cases same
  rfl

theorem ne_of_compare_lt [Std.ReflOrd Key] {first second : Key}
    (before : compare first second = .lt) : first ≠ second := by
  rintro rfl
  rw [Std.ReflOrd.compare_self] at before
  cases before

/-- The map without entries. -/
def empty : SortedMap Key Value := ⟨[], .nil⟩

instance : Inhabited (SortedMap Key Value) := ⟨empty⟩

/-! ## Entry lists -/

/-- The value of the first entry with this key. -/
def find? (key : Key) : List (Key × Value) → Option Value
  | [] => none
  | entry :: rest =>
      match compare key entry.1 with
      | .eq => some entry.2
      | _ => find? key rest

/-- Put a value under a key, keeping the order and replacing an entry with the
same key. -/
def place (key : Key) (value : Value) : List (Key × Value) → List (Key × Value)
  | [] => [(key, value)]
  | entry :: rest =>
      match compare key entry.1 with
      | .lt => (key, value) :: entry :: rest
      | .eq => (key, value) :: rest
      | .gt => entry :: place key value rest

theorem mem_place {key : Key} {value : Value} {entry : Key × Value}
    {entries : List (Key × Value)} (member : entry ∈ place key value entries) :
    entry = (key, value) ∨ entry ∈ entries := by
  induction entries with
  | nil => simpa [place] using member
  | cons head rest inductionHypothesis =>
      rw [place] at member
      split at member
      · simpa using member
      · rcases List.mem_cons.1 member with same | older
        · exact .inl same
        · exact .inr (List.mem_cons_of_mem _ older)
      · rcases List.mem_cons.1 member with same | later
        · exact .inr (same ▸ List.mem_cons_self)
        · rcases inductionHypothesis later with fresh | older
          · exact .inl fresh
          · exact .inr (List.mem_cons_of_mem _ older)

theorem place_sorted [Std.TransOrd Key] (key : Key) (value : Value)
    {entries : List (Key × Value)}
    (sorted : entries.Pairwise (fun left right => compare left.1 right.1 = .lt)) :
    (place key value entries).Pairwise
      (fun left right => compare left.1 right.1 = .lt) := by
  induction entries with
  | nil => exact List.pairwise_singleton _ _
  | cons head rest inductionHypothesis =>
      have ⟨headFirst, restSorted⟩ := List.pairwise_cons.1 sorted
      rw [place]
      split
      · next before =>
          refine List.pairwise_cons.2 ⟨?_, sorted⟩
          intro entry member
          rcases List.mem_cons.1 member with same | later
          · exact same ▸ before
          · exact Std.TransCmp.lt_trans before (headFirst entry later)
      · next same =>
          refine List.pairwise_cons.2 ⟨?_, restSorted⟩
          intro entry later
          exact Std.TransCmp.lt_of_eq_of_lt same (headFirst entry later)
      · next after =>
          refine List.pairwise_cons.2 ⟨?_, inductionHypothesis restSorted⟩
          intro entry member
          rcases mem_place member with fresh | later
          · exact fresh ▸ Std.OrientedCmp.gt_iff_lt.1 after
          · exact headFirst entry later

/-! ## Operations -/

/-- The value stored under a key. -/
def get? (map : SortedMap Key Value) (key : Key) : Option Value :=
  find? key map.entries

/-- Whether a key is present. -/
def contains (map : SortedMap Key Value) (key : Key) : Bool :=
  (map.get? key).isSome

/-- Store a value under a key, replacing what was there. -/
def insert [Std.TransOrd Key] (map : SortedMap Key Value) (key : Key)
    (value : Value) : SortedMap Key Value :=
  ⟨place key value map.entries, place_sorted key value map.sorted⟩

/-- Remove a key. -/
def erase (map : SortedMap Key Value) (key : Key) : SortedMap Key Value :=
  ⟨map.entries.filter (fun entry => compare key entry.1 != .eq),
    map.sorted.filter _⟩

/-- Change the value of a key that is present. -/
def modify (map : SortedMap Key Value) (key : Key) (change : Value → Value) :
    SortedMap Key Value :=
  ⟨map.entries.map fun entry =>
      (entry.1, match compare key entry.1 with
        | .eq => change entry.2
        | _ => entry.2),
    List.Pairwise.map _ (fun _ _ before => before) map.sorted⟩

/-- The keys in increasing order. -/
def keys (map : SortedMap Key Value) : List Key := map.entries.map Prod.fst

/-- The values in the order of their keys. -/
def values (map : SortedMap Key Value) : List Value := map.entries.map Prod.snd

/-- The number of entries. -/
def size (map : SortedMap Key Value) : Nat := map.entries.length

/-- Whether there are no entries. -/
def isEmpty (map : SortedMap Key Value) : Bool := map.entries.isEmpty

/-- Store entries one after another; the last entry with a key wins. -/
def insertMany [Std.TransOrd Key] (map : SortedMap Key Value)
    (entries : List (Key × Value)) : SortedMap Key Value :=
  entries.foldl (fun stored entry => stored.insert entry.1 entry.2) map

/-- The map with these entries; the last entry with a key wins. -/
def ofList [Std.TransOrd Key] (entries : List (Key × Value)) :
    SortedMap Key Value :=
  empty.insertMany entries

/-! ## Look-ups -/

@[simp] theorem get?_empty (key : Key) :
    (empty : SortedMap Key Value).get? key = none := rfl

theorem find?_place_self [Std.ReflOrd Key] (key : Key) (value : Value)
    (entries : List (Key × Value)) :
    find? key (place key value entries) = some value := by
  induction entries with
  | nil => simp [place, find?]
  | cons head rest inductionHypothesis =>
      rw [place]
      split
      · simp [find?]
      · simp [find?]
      · next after => simp [find?, after, inductionHypothesis]

theorem find?_place_of_ne [Std.TransOrd Key] [Std.LawfulEqOrd Key]
    {key other : Key} (different : key ≠ other) (value : Value)
    (entries : List (Key × Value)) :
    find? other (place key value entries) = find? other entries := by
  have unequal : other ≠ key := fun same => different same.symm
  induction entries with
  | nil => simp [place, find?, unequal]
  | cons head rest inductionHypothesis =>
      rw [place]
      split
      · simp [find?, unequal]
      · next same =>
          have keySame : key = head.1 := Std.LawfulEqCmp.compare_eq_iff_eq.1 same
          subst keySame
          simp [find?, unequal]
      · simp only [find?, inductionHypothesis]

/-- A key finds what was last stored under it. -/
theorem get?_insert [Std.TransOrd Key] [Std.LawfulEqOrd Key] [DecidableEq Key]
    (map : SortedMap Key Value) (key other : Key) (value : Value) :
    (map.insert key value).get? other =
      if key = other then some value else map.get? other := by
  by_cases same : key = other
  · subst same
    simp [get?, insert, find?_place_self]
  · simp [get?, insert, find?_place_of_ne same, same]

/-- A removed key finds nothing, and no other key is affected. -/
theorem get?_erase [Std.TransOrd Key] [Std.LawfulEqOrd Key] [DecidableEq Key]
    (map : SortedMap Key Value) (key other : Key) :
    (map.erase key).get? other =
      if key = other then none else map.get? other := by
  simp only [get?, erase]
  induction map.entries with
  | nil => simp [find?]
  | cons head rest inductionHypothesis =>
      by_cases removed : compare key head.1 = .eq
      · have keySame : key = head.1 := Std.LawfulEqCmp.compare_eq_iff_eq.1 removed
        simp only [List.filter_cons, removed, bne_self_eq_false, Bool.false_eq_true,
          ↓reduceIte, inductionHypothesis]
        by_cases same : key = other
        · simp [same]
        · have unequal : other ≠ head.1 := fun found =>
            same (keySame.trans found.symm)
          simp [same, find?, unequal]
      · have kept : (compare key head.1 != .eq) = true := by simpa using removed
        simp only [List.filter_cons, kept, ↓reduceIte, find?, inductionHypothesis]
        by_cases same : key = other
        · subst same
          simp
        · simp [same]

/-- An entry of a map is found under its key. -/
theorem get?_of_mem [Std.TransOrd Key] {map : SortedMap Key Value} {key : Key}
    {value : Value} (member : (key, value) ∈ map.entries) :
    map.get? key = some value := by
  obtain ⟨entries, sorted⟩ := map
  simp only [get?] at *
  induction entries with
  | nil => simp at member
  | cons head rest inductionHypothesis =>
      have ⟨headFirst, restSorted⟩ := List.pairwise_cons.1 sorted
      rcases List.mem_cons.1 member with same | later
      · subst same
        simp [find?]
      · have after : compare key head.1 = .gt :=
          Std.OrientedCmp.gt_iff_lt.2 (headFirst (key, value) later)
        simp [find?, after, inductionHypothesis restSorted later]

/-- What a key finds is an entry. -/
theorem mem_of_get? [Std.LawfulEqOrd Key] {map : SortedMap Key Value} {key : Key}
    {value : Value} (found : map.get? key = some value) :
    (key, value) ∈ map.entries := by
  obtain ⟨entries, sorted⟩ := map
  change find? key entries = some value at found
  change (key, value) ∈ entries
  clear sorted
  induction entries with
  | nil => simp [find?] at found
  | cons head rest inductionHypothesis =>
      unfold find? at found
      split at found
      · next same =>
          have keySame : key = head.1 := Std.LawfulEqCmp.compare_eq_iff_eq.1 same
          have valueSame : head.2 = value := Option.some.inj found
          exact List.mem_cons.2 (.inl (by rw [keySame, ← valueSame]))
      · exact List.mem_cons_of_mem _ (inductionHypothesis found)

theorem mem_entries_iff [Std.TransOrd Key] [Std.LawfulEqOrd Key]
    {map : SortedMap Key Value} {key : Key} {value : Value} :
    (key, value) ∈ map.entries ↔ map.get? key = some value :=
  ⟨get?_of_mem, mem_of_get?⟩

/-- Maps with the same look-ups are equal. -/
theorem ext_get? [Std.TransOrd Key] [Std.LawfulEqOrd Key]
    {left right : SortedMap Key Value}
    (same : ∀ key, left.get? key = right.get? key) : left = right := by
  apply ext_entries
  have sameEntries : ∀ entry, entry ∈ left.entries ↔ entry ∈ right.entries := by
    rintro ⟨key, value⟩
    rw [mem_entries_iff, mem_entries_iff, same]
  have nodup (map : SortedMap Key Value) : map.entries.Nodup :=
    map.sorted.imp fun before same => ne_of_compare_lt before (congrArg Prod.fst same)
  have permutation : left.entries.Perm right.entries :=
    (List.perm_ext_iff_of_nodup (nodup left) (nodup right)).2 sameEntries
  refine permutation.eq_of_pairwise ?_ left.sorted right.sorted
  intro first second _ _ before after
  have flipped := Std.OrientedCmp.gt_iff_lt.2 after
  rw [before] at flipped
  cases flipped

end SortedMap

end ChatOps
