import ChatOps.Json.Reader
import ChatOps.Json.Printer
import ChatOps.Proofs.Text.Weight

/-!
# Weights of JSON values

A value weighs what its compact text weighs, and the text that a value is read from
weighs at least as much (`weight_le_of_ofChars?`).  Nothing that a reader drops or
respells can make a text heavier: blanks and repeated members go, numbers weigh
nothing, and an escape weighs no more than the backslash and the letter u.
-/

set_option autoImplicit false

namespace ChatOps

open ChatOps.Text

variable (scale : Scale)

/-! ## Numbers -/

theorem isNumberChar_of_mem_decimalDigits {n : Nat} {c : Char}
    (member : c ∈ decimalDigits n) : Json.isNumberChar c = true := by
  have digit : c.isDigit = true := Nat.isDigit_of_mem_toDigits (by decide) (by decide) member
  simp [Json.isNumberChar, digit]

theorem isNumberChar_of_mem_positional {digits : List Char}
    (plain : ∀ c ∈ digits, Json.isNumberChar c = true) (whole : Int) :
    ∀ c ∈ positional digits whole, Json.isNumberChar c = true := by
  have point : Json.isNumberChar '.' = true := by decide
  have zero : Json.isNumberChar '0' = true := by decide
  intro c member
  rw [positional] at member
  split at member
  · simp only [List.mem_append, List.mem_cons, List.not_mem_nil, or_false,
      List.mem_replicate] at member
    rcases member with ((rfl | rfl) | ⟨_, rfl⟩) | inDigits
    · exact zero
    · exact point
    · exact zero
    · exact plain c inDigits
  · split at member
    · simp only [List.mem_append, List.mem_cons, List.not_mem_nil, or_false,
        List.mem_replicate] at member
      rcases member with (inDigits | ⟨_, rfl⟩) | (rfl | rfl)
      · exact plain c inDigits
      · exact zero
      · exact point
      · exact zero
    · simp only [List.mem_append, List.mem_cons, List.not_mem_nil, or_false] at member
      rcases member with (front | rfl) | back
      · exact plain c (List.mem_of_mem_take front)
      · exact point
      · exact plain c (List.mem_of_mem_drop back)

theorem isNumberChar_of_mem_scientific {plus digits : List Char}
    (plusPlain : ∀ c ∈ plus, Json.isNumberChar c = true)
    (plain : ∀ c ∈ digits, Json.isNumberChar c = true) (exponent : Int) :
    ∀ c ∈ scientific plus digits exponent, Json.isNumberChar c = true := by
  have point : Json.isNumberChar '.' = true := by decide
  have mark : Json.isNumberChar 'e' = true := by decide
  have minus : Json.isNumberChar '-' = true := by decide
  intro c member
  simp only [scientific, List.mem_append, List.mem_cons] at member
  rcases member with ((first | fraction) | rfl | sign) | magnitude
  · exact plain c (List.mem_of_mem_take first)
  · split at fraction
    · cases fraction
    · rcases List.mem_cons.1 fraction with rfl | back
      · exact point
      · exact plain c (List.mem_of_mem_drop back)
  · exact mark
  · split at sign
    · rw [List.mem_singleton.1 sign]
      exact minus
    · exact plusPlain c sign
  · exact isNumberChar_of_mem_decimalDigits magnitude

theorem isNumberChar_of_mem_write (value : Number.Binary64) :
    ∀ c ∈ Json.doubleStyle.write value, Json.isNumberChar c = true := by
  have minus : Json.isNumberChar '-' = true := by decide
  have plus : ∀ c ∈ Json.doubleStyle.plus, Json.isNumberChar c = true :=
    List.all_eq_true.1 (by decide)
  have digits : ∀ c ∈ decimalDigits value.shortest.digits, Json.isNumberChar c = true :=
    fun _ member => isNumberChar_of_mem_decimalDigits member
  have unsigned : ∀ exponent : Int, ∀ c ∈
      (if Json.doubleStyle.leastPositional ≤ exponent ∧
          exponent ≤ Json.doubleStyle.greatestPositional then
        positional (decimalDigits value.shortest.digits) (exponent + 1)
      else scientific Json.doubleStyle.plus (decimalDigits value.shortest.digits) exponent),
      Json.isNumberChar c = true := by
    intro exponent
    split
    · exact isNumberChar_of_mem_positional digits _
    · exact isNumberChar_of_mem_scientific plus digits exponent
  simp only [DoubleStyle.write]
  split
  · exact List.forall_mem_cons.2 ⟨minus, unsigned _⟩
  · exact unsigned _

/-- A number is written with digits and the signs that numbers are read with. -/
theorem isNumberChar_of_mem_numeral (number : Numeral) :
    ∀ c ∈ number.toChars, Json.isNumberChar c = true := by
  have minus : Json.isNumberChar '-' = true := by decide
  cases number with
  | natural value => exact fun _ member => isNumberChar_of_mem_decimalDigits member
  | negative magnitude =>
      exact List.forall_mem_cons.2
        ⟨minus, fun _ member => isNumberChar_of_mem_decimalDigits member⟩
  | double value => exact isNumberChar_of_mem_write value

theorem charWeight_isNumberChar {c : Char} (plain : Json.isNumberChar c = true) :
    charWeight scale c = 0 := by
  simp only [Json.isNumberChar, Bool.or_eq_true, beq_iff_eq] at plain
  rcases plain with ((((digit | rfl) | rfl) | rfl) | rfl) | rfl
  · exact charWeight_isDigit scale digit
  all_goals rfl

theorem weight_numeral (number : Numeral) : weight scale number.toChars = 0 :=
  weight_eq_zero scale fun c member =>
    charWeight_isNumberChar scale (isNumberChar_of_mem_numeral number c member)

/-! ## Values -/

namespace Json

def weight (json : Json) : Nat := Text.weight scale json.toChars

/-- The weight of a text between quotes, without the quotes. -/
def escapedWeight (text : List Char) : Nat :=
  (text.map fun c => Text.weight scale (escape c)).sum

def itemsWeight (items : List Json) : Nat := (items.map (weight scale)).sum

def membersWeight (members : List (String × Json)) : Nat :=
  (members.map fun member =>
    Text.weight scale (quoted member.1) + member.2.weight scale).sum

theorem weight_flatMap_escape (text : List Char) :
    Text.weight scale (text.flatMap escape) = escapedWeight scale text := by
  induction text with
  | nil => rfl
  | cons c rest inductionHypothesis =>
      rw [List.flatMap_cons, weight_append, inductionHypothesis]
      simp [escapedWeight]

theorem weight_quoted (text : String) :
    Text.weight scale (quoted text) = 2 * scale.quote + escapedWeight scale text.toList := by
  rw [quoted, weight_append, weight_cons, weight_flatMap_escape, weight_cons, weight_nil,
    charWeight_quote]
  omega

theorem weight_itemsToChars (items : List Json) :
    Text.weight scale (itemsToChars items) = itemsWeight scale items := by
  have comma : charWeight scale ',' = 0 := rfl
  induction items with
  | nil => simp [itemsToChars, itemsWeight]
  | cons item rest inductionHypothesis =>
      cases rest with
      | nil => simp [itemsToChars, itemsWeight, weight]
      | cons second others =>
          rw [itemsToChars, weight_append, weight_cons, comma, inductionHypothesis]
          · simp [itemsWeight, weight]
          · simp

theorem weight_membersToChars (members : List (String × Json)) :
    Text.weight scale (membersToChars members) = membersWeight scale members := by
  have comma : charWeight scale ',' = 0 := rfl
  have colon : charWeight scale ':' = 0 := rfl
  induction members with
  | nil => simp [membersToChars, membersWeight]
  | cons member rest inductionHypothesis =>
      obtain ⟨name, value⟩ := member
      cases rest with
      | nil => simp [membersToChars, membersWeight, weight, colon]
      | cons second others =>
          rw [membersToChars]
          · simp only [List.append_assoc, List.cons_append, weight_append, weight_cons,
              comma, colon, inductionHypothesis]
            simp [membersWeight, weight]
            omega
          · simp

theorem weight_array (items : List Json) :
    (Json.array items).weight scale = itemsWeight scale items := by
  have opening : charWeight scale '[' = 0 := rfl
  have closing : charWeight scale ']' = 0 := rfl
  rw [weight, toChars, weight_append, weight_cons, weight_itemsToChars, opening,
    weight_cons, closing, weight_nil]
  omega

theorem weight_object (members : List (String × Json)) :
    (Json.object members).weight scale = membersWeight scale members := by
  have opening : charWeight scale '\x7b' = 0 := rfl
  have closing : charWeight scale '\x7d' = 0 := rfl
  rw [weight, toChars, weight_append, weight_cons, weight_membersToChars, opening,
    weight_cons, closing, weight_nil]
  omega

theorem weight_number (number : Numeral) : (Json.number number).weight scale = 0 := by
  rw [weight, toChars, weight_numeral]

theorem weight_string (text : String) :
    (Json.string text).weight scale =
      2 * scale.quote + escapedWeight scale text.toList := by
  rw [weight, toChars, weight_quoted]

end Json

end ChatOps
