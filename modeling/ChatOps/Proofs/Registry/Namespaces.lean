import ChatOps.Proofs.SortedMap
import ChatOps.Registry.Tables
import Mathlib.Data.List.Nodup

/-!
# Values by address and name

A table of namespaces is a map from places, which are pairs of an address and a name.
The main facts are `find?_put`, and that a table lists every place at which something is
stored, and no place twice (`mem_places_iff`, `nodup_places`).
-/

set_option autoImplicit false

namespace ChatOps.Namespaces

variable {Value : Type}

/-- A place finds what was last stored there. -/
theorem find?_put (spaces : Namespaces Value) (address other : Address) (name sought : String)
    (value : Value) :
    find? (put spaces address name value) other sought =
      if address = other ∧ name = sought then some value else find? spaces other sought := by
  rw [find?, space, put, SortedMap.get?_insert]
  by_cases sameAddress : address = other
  · subst sameAddress
    rw [if_pos rfl, Option.getD_some, SortedMap.get?_insert]
    simp only [true_and]
    rfl
  · rw [if_neg sameAddress, if_neg fun both => sameAddress both.1]
    rfl

/-! ## No empty namespaces -/

/-- Whether every namespace that there is holds something. -/
def Inhabited (spaces : Namespaces Value) : Prop :=
  ∀ address names, spaces.get? address = some names → names.isEmpty = false

theorem Inhabited.put {spaces : Namespaces Value} (inhabited : Inhabited spaces)
    (address : Address) (name : String) (value : Value) :
    Inhabited (put spaces address name value) := by
  intro other names found
  rw [Namespaces.put, SortedMap.get?_insert] at found
  split at found
  · cases found
    cases empty : ((space spaces address).insert name value).isEmpty with
    | false => rfl
    | true =>
        have stored : ((space spaces address).insert name value).get? name = some value := by
          rw [SortedMap.get?_insert, if_pos rfl]
        rw [SortedMap.get?, List.isEmpty_iff.1 empty] at stored
        cases stored
  · exact inhabited other names found

/-! ## Places -/

/-- The places at which something is stored. -/
def places (spaces : Namespaces Value) : List (Address × String) :=
  spaces.entries.flatMap fun entry => entry.2.keys.map fun name => (entry.1, name)

theorem mem_places_iff {spaces : Namespaces Value} {address : Address} {name : String} :
    (address, name) ∈ places spaces ↔ (find? spaces address name).isSome = true := by
  simp only [places, List.mem_flatMap, List.mem_map, Prod.mk.injEq]
  constructor
  · rintro ⟨⟨_, names⟩, member, _, isKey, rfl, rfl⟩
    rw [find?, space, SortedMap.get?_of_mem member, Option.getD_some]
    exact (SortedMap.mem_keys_iff names).1 isKey
  · intro found
    rw [find?, space] at found
    cases spaceFound : spaces.get? address with
    | none =>
        rw [spaceFound] at found
        cases found
    | some names =>
        rw [spaceFound] at found
        exact ⟨(address, names), SortedMap.mem_of_get? spaceFound, name,
          (SortedMap.mem_keys_iff names).2 found, rfl, rfl⟩

theorem nodup_places (spaces : Namespaces Value) : (places spaces).Nodup := by
  rw [places, List.nodup_flatMap]
  constructor
  · intro entry _
    refine (SortedMap.nodup_keys entry.2).map ?_
    intro first second same
    exact (Prod.mk.inj same).2
  · have different : (spaces.entries.map Prod.fst).Pairwise (· ≠ ·) :=
      SortedMap.nodup_keys spaces
    refine (List.pairwise_map.1 different).imp ?_
    intro first second apart place inFirst inSecond
    obtain ⟨_, _, rfl⟩ := List.mem_map.1 inFirst
    obtain ⟨_, _, same⟩ := List.mem_map.1 inSecond
    exact apart (Prod.mk.inj same).1.symm

theorem length_places (spaces : Namespaces Value) :
    (places spaces).length = (all spaces).length := by
  simp only [places, all, SortedMap.values, SortedMap.keys, List.length_flatMap,
    List.flatMap_map, List.length_map]

/-- A free place that is taken is one more. -/
theorem length_all_put {spaces : Namespaces Value} {address : Address} {name : String}
    (free : find? spaces address name = none) (value : Value) :
    (all (put spaces address name value)).length = (all spaces).length + 1 := by
  have notPlace : (address, name) ∉ places spaces := by
    rw [mem_places_iff, free]
    exact Bool.false_ne_true
  have permutation : (places (put spaces address name value)).Perm
      ((address, name) :: places spaces) := by
    refine (List.perm_ext_iff_of_nodup (nodup_places _)
      (List.nodup_cons.2 ⟨notPlace, nodup_places _⟩)).2 ?_
    rintro ⟨other, sought⟩
    rw [List.mem_cons, mem_places_iff, mem_places_iff, find?_put, Prod.mk.injEq]
    by_cases same : address = other ∧ name = sought
    · simp [same.1, same.2]
    · rw [if_neg same, or_iff_right fun equal => same ⟨equal.1.symm, equal.2.symm⟩]
  have lengths := permutation.length_eq
  rwa [List.length_cons, length_places, length_places] at lengths

/-- Where every value tells its place, the values tell the places one by one. -/
theorem map_all {spaces : Namespaces Value} (placeOf : Value → Address × String)
    (truthful : ∀ address name value,
      find? spaces address name = some value → placeOf value = (address, name)) :
    (all spaces).map placeOf = places spaces := by
  simp only [all, places, SortedMap.values, SortedMap.keys, List.flatMap_map, List.map_flatMap,
    List.map_map]
  apply List.flatMap_congr
  intro entry member
  apply List.map_congr_left
  intro stored storedMember
  apply truthful
  rw [find?, space, SortedMap.get?_of_mem member, Option.getD_some]
  exact SortedMap.get?_of_mem storedMember

end ChatOps.Namespaces
