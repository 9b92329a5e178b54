import ChatOps.Number.Binary64
import ChatOps.SortedMap

/-!
# JSON values

The values that commands carry as arguments and that handlers return.  A number
is a natural number of 64 bits, a negative integer of 64 bits or a binary
floating-point number, and numbers of different kinds are never equal.  Members
of an object are listed in increasing order of their names.
-/

set_option autoImplicit false

namespace ChatOps

open ChatOps.Number

/-- A number of one of three kinds. -/
inductive Numeral where
  | natural (value : Nat)
  | negative (magnitude : Nat)
  | double (value : Binary64)
  deriving DecidableEq

/-- A JSON value. -/
inductive Json where
  | null
  | bool (value : Bool)
  | number (value : Numeral)
  | string (value : String)
  | array (items : List Json)
  | object (members : List (String × Json))

instance : Inhabited Json := ⟨.null⟩

/-- Named values: the flags and options of a command, the members of an object. -/
abbrev JsonMap := SortedMap String Json

namespace Numeral

/-- Equality of numbers: kinds differ, and the two zeros of a kind are equal. -/
def same : Numeral → Numeral → Bool
  | .natural left, .natural right => left == right
  | .negative left, .negative right => left == right
  | .double left, .double right => left.sameValue right
  | _, _ => false

/-- An integer as a natural number or a negative integer. -/
def ofInt (value : Int) : Numeral :=
  if value < 0 then .negative value.natAbs else .natural value.toNat

end Numeral

namespace Json

mutual

/-- Equality of values, by that of the numbers in them. -/
def same : Json → Json → Bool
  | .null, .null => true
  | .bool left, .bool right => left == right
  | .number left, .number right => left.same right
  | .string left, .string right => left == right
  | .array left, .array right => sameItems left right
  | .object left, .object right => sameMembers left right
  | _, _ => false

/-- Equality of lists, item by item. -/
def sameItems : List Json → List Json → Bool
  | [], [] => true
  | left :: lefts, right :: rights => same left right && sameItems lefts rights
  | _, _ => false

/-- Equality of member lists, name by name and value by value. -/
def sameMembers : List (String × Json) → List (String × Json) → Bool
  | [], [] => true
  | (leftName, left) :: lefts, (rightName, right) :: rights =>
      leftName == rightName && same left right && sameMembers lefts rights
  | _, _ => false

end

/-- Equality of named values. -/
def sameMap (left right : JsonMap) : Bool := sameMembers left.entries right.entries

def ofNat (value : Nat) : Json := .number (.natural value)

def ofInt (value : Int) : Json := .number (Numeral.ofInt value)

/-- The object with these members; the last member with a name wins. -/
def ofMembers (members : List (String × Json)) : Json :=
  .object (SortedMap.ofList members : JsonMap).entries

/-- The object with the entries of a map as members. -/
def ofMap (map : JsonMap) : Json := .object map.entries

def ofStrings (texts : List String) : Json := .array (texts.map .string)

/-- An absent value is written as null. -/
def ofOption {α : Type} (write : α → Json) : Option α → Json
  | some value => write value
  | none => .null

/-- The value of a member of an object. -/
def member? (name : String) : Json → Option Json
  | .object members => SortedMap.find? name members
  | _ => none

def asString? : Json → Option String
  | .string value => some value
  | _ => none

def asBool? : Json → Option Bool
  | .bool value => some value
  | _ => none

def asArray? : Json → Option (List Json)
  | .array items => some items
  | _ => none

/-- The members of an object as a map. -/
def asMap? : Json → Option JsonMap
  | .object members => some (SortedMap.ofList members)
  | _ => none

/-- The value of a natural number below a limit. -/
def asNatBelow? (limit : Nat) : Json → Option Nat
  | .number (.natural value) => if value < limit then some value else none
  | _ => none

/-- The texts of a list of strings. -/
def asStrings? (json : Json) : Option (List String) := do
  let items ← json.asArray?
  items.mapM asString?

/-- Null is an absent value; anything else has to be readable. -/
def asOption? {α : Type} (read : Json → Option α) : Json → Option (Option α)
  | .null => some none
  | json => (read json).map some

end Json

end ChatOps
