import ChatOps.Json.Value

/-!
# Equality of JSON values

Two values are equal if the numbers in them are, and two floating-point numbers can be
equal without being the same.  Equality is reflexive, symmetric and transitive
(`same_refl`, `same_symm`, `same_trans`), and so is that of lists of values, such as the
arguments of commands.
-/

set_option autoImplicit false

namespace ChatOps

open ChatOps.Number

theorem Number.Binary64.sameValue_symm {left right : Binary64}
    (same : left.sameValue right = true) : right.sameValue left = true := by
  rw [sameValue, Bool.or_eq_true, Bool.and_eq_true, beq_iff_eq] at same ⊢
  exact same.imp And.symm Eq.symm

theorem Number.Binary64.sameValue_trans {left middle right : Binary64}
    (first : left.sameValue middle = true) (second : middle.sameValue right = true) :
    left.sameValue right = true := by
  rw [sameValue, Bool.or_eq_true, Bool.and_eq_true, beq_iff_eq] at first second ⊢
  rcases first with firstZero | rfl
  · rcases second with secondZero | rfl
    · exact .inl ⟨firstZero.1, secondZero.2⟩
    · exact .inl firstZero
  · exact second

namespace Numeral

theorem same_refl (value : Numeral) : value.same value = true := by
  cases value <;> simp [Numeral.same, Binary64.sameValue]

theorem same_symm {left right : Numeral} (same : left.same right = true) :
    right.same left = true := by
  cases left <;> cases right <;> simp only [Numeral.same, beq_iff_eq, Bool.false_eq_true] at same ⊢
  · exact same.symm
  · exact same.symm
  · exact Binary64.sameValue_symm same

theorem same_trans {left middle right : Numeral} (first : left.same middle = true)
    (second : middle.same right = true) : left.same right = true := by
  cases left <;> cases middle <;> cases right <;>
    simp only [Numeral.same, beq_iff_eq, Bool.false_eq_true] at first second ⊢
  · exact first.trans second
  · exact first.trans second
  · exact Binary64.sameValue_trans first second

end Numeral

namespace Json

mutual

theorem same_refl : (json : Json) → same json json = true
  | .null => rfl
  | .bool value => by rw [same, beq_iff_eq]
  | .number value => by
      rw [same]
      exact value.same_refl
  | .string value => by rw [same, beq_iff_eq]
  | .array items => by
      rw [same]
      exact sameItems_refl items
  | .object members => by
      rw [same]
      exact sameMembers_refl members

theorem sameItems_refl : (items : List Json) → sameItems items items = true
  | [] => rfl
  | first :: later => by
      rw [sameItems, Bool.and_eq_true]
      exact ⟨same_refl first, sameItems_refl later⟩

theorem sameMembers_refl : (members : List (String × Json)) →
    sameMembers members members = true
  | [] => rfl
  | (name, first) :: later => by
      rw [sameMembers, Bool.and_eq_true, Bool.and_eq_true, beq_iff_eq]
      exact ⟨⟨rfl, same_refl first⟩, sameMembers_refl later⟩

end

mutual

theorem same_symm : (left right : Json) → same left right = true → same right left = true
  | .null, right, equal => by
      cases right <;> first | rfl | cases equal
  | .bool left, right, equal => by
      cases right with
      | bool right =>
          rw [same, beq_iff_eq] at equal ⊢
          exact equal.symm
      | _ => cases equal
  | .number left, right, equal => by
      cases right with
      | number right =>
          rw [same] at equal ⊢
          exact Numeral.same_symm equal
      | _ => cases equal
  | .string left, right, equal => by
      cases right with
      | string right =>
          rw [same, beq_iff_eq] at equal ⊢
          exact equal.symm
      | _ => cases equal
  | .array left, right, equal => by
      cases right with
      | array right =>
          rw [same] at equal ⊢
          exact sameItems_symm left right equal
      | _ => cases equal
  | .object left, right, equal => by
      cases right with
      | object right =>
          rw [same] at equal ⊢
          exact sameMembers_symm left right equal
      | _ => cases equal

theorem sameItems_symm : (left right : List Json) → sameItems left right = true →
    sameItems right left = true
  | [], right, equal => by
      cases right with
      | nil => rfl
      | cons item rest => cases equal
  | first :: later, right, equal => by
      cases right with
      | nil => cases equal
      | cons item rest =>
          rw [sameItems, Bool.and_eq_true] at equal ⊢
          exact ⟨same_symm first item equal.1, sameItems_symm later rest equal.2⟩

theorem sameMembers_symm : (left right : List (String × Json)) →
    sameMembers left right = true → sameMembers right left = true
  | [], right, equal => by
      cases right with
      | nil => rfl
      | cons member rest => cases equal
  | (name, first) :: later, right, equal => by
      cases right with
      | nil => cases equal
      | cons member rest =>
          rw [sameMembers, Bool.and_eq_true, Bool.and_eq_true, beq_iff_eq] at equal ⊢
          obtain ⟨⟨sameName, sameValue⟩, sameRest⟩ := equal
          exact ⟨⟨sameName.symm, same_symm first member.2 sameValue⟩,
            sameMembers_symm later rest sameRest⟩

end

mutual

theorem same_trans : (left middle right : Json) → same left middle = true →
    same middle right = true → same left right = true
  | .null, middle, right, first, second => by
      cases middle <;> first | exact second | cases first
  | .bool left, middle, right, first, second => by
      cases middle with
      | bool middle =>
          rw [same, beq_iff_eq] at first
          rw [first]
          exact second
      | _ => cases first
  | .number left, middle, right, first, second => by
      cases middle with
      | number middle =>
          cases right with
          | number right =>
              rw [same] at first second ⊢
              exact Numeral.same_trans first second
          | _ => cases second
      | _ => cases first
  | .string left, middle, right, first, second => by
      cases middle with
      | string middle =>
          rw [same, beq_iff_eq] at first
          rw [first]
          exact second
      | _ => cases first
  | .array left, middle, right, first, second => by
      cases middle with
      | array middle =>
          cases right with
          | array right =>
              rw [same] at first second ⊢
              exact sameItems_trans left middle right first second
          | _ => cases second
      | _ => cases first
  | .object left, middle, right, first, second => by
      cases middle with
      | object middle =>
          cases right with
          | object right =>
              rw [same] at first second ⊢
              exact sameMembers_trans left middle right first second
          | _ => cases second
      | _ => cases first

theorem sameItems_trans : (left middle right : List Json) →
    sameItems left middle = true → sameItems middle right = true →
      sameItems left right = true
  | [], middle, right, first, second => by
      cases middle with
      | nil => exact second
      | cons item rest => cases first
  | one :: more, middle, right, first, second => by
      cases middle with
      | nil => cases first
      | cons item rest =>
          cases right with
          | nil => cases second
          | cons last others =>
              rw [sameItems, Bool.and_eq_true] at first second ⊢
              exact ⟨same_trans one item last first.1 second.1,
                sameItems_trans more rest others first.2 second.2⟩

theorem sameMembers_trans : (left middle right : List (String × Json)) →
    sameMembers left middle = true → sameMembers middle right = true →
      sameMembers left right = true
  | [], middle, right, first, second => by
      cases middle with
      | nil => exact second
      | cons member rest => cases first
  | (name, one) :: more, middle, right, first, second => by
      cases middle with
      | nil => cases first
      | cons member rest =>
          cases right with
          | nil => cases second
          | cons last others =>
              rw [sameMembers, Bool.and_eq_true, Bool.and_eq_true, beq_iff_eq]
                at first second ⊢
              obtain ⟨⟨firstName, firstValue⟩, firstRest⟩ := first
              obtain ⟨⟨secondName, secondValue⟩, secondRest⟩ := second
              exact ⟨⟨firstName.trans secondName,
                same_trans one member.2 last.2 firstValue secondValue⟩,
                sameMembers_trans more rest others firstRest secondRest⟩

end

end Json

end ChatOps
