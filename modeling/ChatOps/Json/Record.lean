import ChatOps.Json.Value

/-!
# Records and choices in JSON

A record is an object whose members may come in any order and among others, or an
array of its fields in order.  A choice among names is the name as a string, or
an object with the name as its only member and null as its value.
-/

set_option autoImplicit false

namespace ChatOps.Json

/-- Whether a field has to be given.  An optional field may be missing among the
members of an object, a defaulted one at the end of an array too. -/
inductive Presence where
  | required
  | optional
  | defaulted
  deriving DecidableEq

/-- A field of a record. -/
structure Field where
  name : String
  presence : Presence

/-- The values of fields given in order. -/
def fieldsInOrder? : List Field → List Json → Option (List (Option Json))
  | [], [] => some []
  | [], _ :: _ => none
  | _ :: fields, item :: items =>
      (fieldsInOrder? fields items).map (some item :: ·)
  | field :: fields, [] =>
      if field.presence = .defaulted then
        (fieldsInOrder? fields []).map (none :: ·)
      else none

/-- The values of fields given by name. -/
def fieldsByName? (members : List (String × Json)) :
    List Field → Option (List (Option Json))
  | [] => some []
  | field :: fields =>
      match SortedMap.find? field.name members with
      | some value => (fieldsByName? members fields).map (some value :: ·)
      | none =>
          if field.presence = .required then none
          else (fieldsByName? members fields).map (none :: ·)

/-- The values of the fields of a record, in the order of the fields. -/
def fields? (fields : List Field) : Json → Option (List (Option Json))
  | .object members => fieldsByName? members fields
  | .array items => fieldsInOrder? fields items
  | _ => none

/-- Read a field that is there. -/
def given? {α : Type} (read : Json → Option α) (field : Option Json) : Option α :=
  field.bind read

/-- Read a field that may be missing or null. -/
def optional? {α : Type} (read : Json → Option α) (field : Option Json) :
    Option (Option α) :=
  asOption? read (field.getD .null)

/-- Read a field that has a value when it is missing. -/
def defaulted? {α : Type} (missing : α) (read : Json → Option α)
    (field : Option Json) : Option α :=
  match field with
  | some value => read value
  | none => some missing

/-- Read a choice among names. -/
def choice? {α : Type} (named : String → Option α) : Json → Option α
  | .string name => named name
  | .object [(name, .null)] => named name
  | _ => none

/-- Read a list item by item. -/
def list? {α : Type} (read : Json → Option α) (json : Json) : Option (List α) := do
  let items ← json.asArray?
  items.mapM read

end ChatOps.Json
