import ChatOps.Json.Value

/-!
# Members of objects

Reading the members of an object one by one.  A member that may be missing may
also be null.
-/

set_option autoImplicit false

namespace ChatOps.Json

variable {α : Type}

/-- Read a member that has to be there. -/
def need? (read : Json → Option α) (name : String) (json : Json) : Option α :=
  (json.member? name).bind read

/-- Read a member that may be missing. -/
def maybe? (read : Json → Option α) (name : String) (json : Json) :
    Option (Option α) :=
  match json.member? name with
  | none => some none
  | some .null => some none
  | some value => (read value).map some

/-- Read a member with a value for when it is missing. -/
def orElse? (missing : α) (read : Json → Option α) (name : String) (json : Json) :
    Option α :=
  (maybe? read name json).map fun found => found.getD missing

/-- Read a text that has to be there. -/
def needText? (name : String) (json : Json) : Option String := need? asString? name json

/-- Read a list of texts that has to be there. -/
def needTexts? (name : String) (json : Json) : Option (List String) :=
  need? asStrings? name json

/-- A natural number of 64 bits. -/
def asNat? (json : Json) : Option Nat := json.asNatBelow? UInt64.size

theorem sizeOf_lt_of_find? {name : String} {value : Json}
    {members : List (String × Json)}
    (found : SortedMap.find? name members = some value) :
    sizeOf value < sizeOf members := by
  induction members with
  | nil => simp [SortedMap.find?] at found
  | cons entry rest inductionHypothesis =>
      obtain ⟨key, json⟩ := entry
      rw [SortedMap.find?] at found
      split at found
      · cases Option.some.inj found
        simp only [List.cons.sizeOf_spec, Prod.mk.sizeOf_spec]
        omega
      · have smaller := inductionHypothesis found
        simp only [List.cons.sizeOf_spec]
        omega

/-- A member is smaller than the object that holds it. -/
theorem sizeOf_lt_of_member? {name : String} {value json : Json}
    (found : json.member? name = some value) : sizeOf value < sizeOf json := by
  cases json with
  | object members =>
      have smaller := sizeOf_lt_of_find? (found : SortedMap.find? name members = some value)
      simp only [object.sizeOf_spec]
      omega
  | _ => cases found

end ChatOps.Json
