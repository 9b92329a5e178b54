import ChatOps.Json.Value
import ChatOps.Text.Digit
import ChatOps.Text.Split

/-!
# Identifiers of executions

An identifier is a number of 128 bits.  It is written with 32 hexadecimal digits
in five groups, and read with or without the hyphens between the groups, in
braces or behind `urn:uuid:` in letters of any case.
-/

set_option autoImplicit false

namespace ChatOps

/-- Names one execution of a command. -/
structure ExecutionId where
  bits : BitVec 128
  deriving DecidableEq

namespace ExecutionId

def ofNat (n : Nat) : ExecutionId := ⟨BitVec.ofNat 128 n⟩

def toNat (id : ExecutionId) : Nat := id.bits.toNat

/-! ## Order -/

instance : Ord ExecutionId := ⟨fun left right => compare left.bits right.bits⟩

instance : Std.OrientedOrd ExecutionId where
  eq_swap {left right} :=
    (Std.OrientedCmp.eq_swap :
      compare left.bits right.bits = (compare right.bits left.bits).swap)

instance : Std.TransOrd ExecutionId where
  isLE_trans {first second third} before after :=
    (Std.TransCmp.isLE_trans (b := second.bits) before after :
      (compare first.bits third.bits).isLE)

instance : Std.LawfulEqOrd ExecutionId where
  eq_of_compare {left right} same := by
    have bitsSame : left.bits = right.bits :=
      Std.LawfulEqOrd.eq_of_compare
        (show compare left.bits right.bits = .eq from same)
    cases left
    cases right
    cases bitsSame
    rfl

/-! ## Text -/

/-- The lengths of the groups of digits. -/
def groups : List Nat := [8, 4, 4, 4, 12]

/-- The number of digits. -/
def width : Nat := 32

/-- So many hexadecimal digits of a number. -/
def hexDigits (count n : Nat) : List Char :=
  (List.range count).reverse.map fun place => Nat.digitChar (n / Nat.pow 16 place % 16)

/-- Digits in groups with hyphens between them. -/
def hyphenated : List Nat → List Char → List Char
  | [], _ => []
  | [size], digits => digits.take size
  | size :: sizes, digits =>
      digits.take size ++ '-' :: hyphenated sizes (digits.drop size)

def toChars (id : ExecutionId) : List Char :=
  hyphenated groups (hexDigits width id.toNat)

def text (id : ExecutionId) : String := String.ofList id.toChars

/-- The number that hexadecimal digits denote. -/
def hexNumber? (digits : List Char) : Option Nat :=
  digits.foldlM (fun value c => (Text.hexValue? c).map (value * 16 + ·)) 0

/-- The digits of groups with hyphens between them. -/
def ungroup? : List Nat → List Char → Option (List Char)
  | [], _ => none
  | [size], text => if text.length = size then some text else none
  | size :: sizes, text =>
      match text.drop size with
      | '-' :: rest => (ungroup? sizes rest).map (text.take size ++ ·)
      | _ => none

/-- What stands in front of an identifier that is written as a resource name. -/
def resourceStart : List Char := "urn:uuid:".toList

/-- Whether a text begins as a resource name does, whatever the case of letters. -/
def isResourceName (text : List Char) : Bool :=
  (text.take resourceStart.length).map Char.toLower == resourceStart

/-- The digits of an identifier in one of the four forms. -/
def digits? (text : List Char) : Option (List Char) :=
  if text.length = width then some text
  else if isResourceName text then ungroup? groups (text.drop resourceStart.length)
  else
    match Text.afterStart? ['{'] text with
    | some opened => (Text.beforeEnd? ['}'] opened).bind (ungroup? groups)
    | none => ungroup? groups text

def ofChars? (text : List Char) : Option ExecutionId :=
  ((digits? text).bind hexNumber?).map ofNat

def ofText? (text : String) : Option ExecutionId := ofChars? text.toList

/-! ## JSON -/

def toJson (id : ExecutionId) : Json := .string id.text

def ofJson? (json : Json) : Option ExecutionId := json.asString?.bind ofText?

end ExecutionId

end ChatOps
