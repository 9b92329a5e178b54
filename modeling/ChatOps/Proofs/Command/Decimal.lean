import ChatOps.Command.Argument
import Mathlib.Data.List.TakeDrop
import Mathlib.Data.List.TakeWhile

/-!
# Spellings of decimal numbers

A token is numeric just if it spells a decimal number: perhaps a minus sign, then digits,
and perhaps a point with more digits behind it (`isNumeric_iff`).
-/

set_option autoImplicit false

namespace ChatOps

def IsDigits (text : List Char) : Prop := text ≠ [] ∧ ∀ c ∈ text, c.isDigit = true

/-- The spellings of decimal numbers without a sign. -/
inductive IsUnsigned : List Char → Prop where
  | whole {digits : List Char} (isDigits : IsDigits digits) : IsUnsigned digits
  | point {digits fraction : List Char} (isDigits : IsDigits digits)
      (isFraction : IsDigits fraction) : IsUnsigned (digits ++ '.' :: fraction)

/-- The spellings of decimal numbers. -/
inductive IsDecimal : List Char → Prop where
  | plain {text : List Char} (unsigned : IsUnsigned text) : IsDecimal text
  | minus {text : List Char} (unsigned : IsUnsigned text) : IsDecimal ('-' :: text)

theorem spanDigits_append {digits rest : List Char} (isDigits : ∀ c ∈ digits, c.isDigit = true)
    (stops : ∀ c ∈ rest.head?, c.isDigit = false) :
    spanDigits (digits ++ rest) = (digits, rest) := by
  rw [spanDigits, List.span_eq_takeWhile_dropWhile, List.takeWhile_append_of_pos isDigits,
    List.dropWhile_append_of_pos isDigits]
  cases rest with
  | nil => simp
  | cons c others => simp [stops c rfl]

theorem spanDigits_digits {digits : List Char} (isDigits : ∀ c ∈ digits, c.isDigit = true) :
    spanDigits digits = (digits, []) := by
  have split : spanDigits (digits ++ []) = (digits, []) :=
    spanDigits_append isDigits fun _ member => by cases member
  rwa [List.append_nil] at split

theorem spanDigits_eq {text whole behind : List Char}
    (split : spanDigits text = (whole, behind)) :
    text = whole ++ behind ∧ ∀ c ∈ whole, c.isDigit = true := by
  rw [spanDigits, List.span_eq_takeWhile_dropWhile] at split
  cases split
  exact ⟨List.takeWhile_append_dropWhile.symm, fun c member => List.mem_takeWhile_imp member⟩

theorem IsUnsigned.head {text : List Char} (unsigned : IsUnsigned text) :
    text.head? ≠ some '-' := by
  -- Either way the first character is a digit, and a dash is none.
  have first : ∃ c rest, text = c :: rest ∧ c.isDigit = true := by
    cases unsigned with
    | whole isDigits =>
        obtain ⟨c, rest, rfl⟩ := List.exists_cons_of_ne_nil isDigits.1
        exact ⟨c, rest, rfl, isDigits.2 c List.mem_cons_self⟩
    | point isDigits _ =>
        obtain ⟨c, rest, rfl⟩ := List.exists_cons_of_ne_nil isDigits.1
        exact ⟨c, _, rfl, isDigits.2 c List.mem_cons_self⟩
  obtain ⟨c, rest, rfl, digit⟩ := first
  intro dash
  cases dash
  cases digit

namespace PlainNumber

/-- The number of a known sign whose other characters are these. -/
def ofUnsigned? (negative : Bool) (unsigned : List Char) : Option PlainNumber :=
  let (whole, behind) := spanDigits unsigned
  if whole.isEmpty then none
  else
    match behind with
    | [] => some ⟨negative, whole, []⟩
    | '.' :: rest =>
        let (fraction, after) := spanDigits rest
        if fraction.isEmpty || !after.isEmpty then none
        else some ⟨negative, whole, fraction⟩
    | _ => none

theorem ofChars?_minus (text : List Char) : ofChars? ('-' :: text) = ofUnsigned? true text := rfl

theorem ofChars?_plain {text : List Char} (plain : text.head? ≠ some '-') :
    ofChars? text = ofUnsigned? false text := by
  unfold ofChars?
  split
  next negative unsigned sign =>
    split at sign
    · exact absurd rfl plain
    · cases sign
      rfl

theorem isUnsigned_of_isSome {negative : Bool} {text : List Char}
    (read : (ofUnsigned? negative text).isSome = true) : IsUnsigned text := by
  obtain ⟨whole, behind, split⟩ : ∃ whole behind, spanDigits text = (whole, behind) :=
    ⟨_, _, rfl⟩
  obtain ⟨shape, wholeDigits⟩ := spanDigits_eq split
  simp only [ofUnsigned?, split] at read
  cases empty : whole.isEmpty with
  | true => simp [empty] at read
  | false =>
      have isDigits : IsDigits whole := ⟨List.isEmpty_eq_false_iff.1 empty, wholeDigits⟩
      simp only [empty, Bool.false_eq_true, if_false] at read
      split at read
      · rw [shape, List.append_nil]
        exact .whole isDigits
      · next rest =>
          obtain ⟨fraction, after, fractionSplit⟩ :
              ∃ fraction after, spanDigits rest = (fraction, after) := ⟨_, _, rfl⟩
          obtain ⟨restShape, fractionDigits⟩ := spanDigits_eq fractionSplit
          simp only [fractionSplit] at read
          cases fractionEmpty : fraction.isEmpty with
          | true => simp [fractionEmpty] at read
          | false =>
              cases after with
              | nil =>
                  rw [shape, restShape, List.append_nil]
                  exact .point isDigits
                    ⟨List.isEmpty_eq_false_iff.1 fractionEmpty, fractionDigits⟩
              | cons c others => simp at read
      · cases read

theorem isSome_of_isUnsigned {text : List Char} (spelt : IsUnsigned text) (negative : Bool) :
    (ofUnsigned? negative text).isSome = true := by
  cases spelt with
  | whole isDigits =>
      have given : text.isEmpty = false := List.isEmpty_eq_false_iff.2 isDigits.1
      simp [ofUnsigned?, spanDigits_digits isDigits.2, given]
  | @point digits fraction isDigits isFraction =>
      have split : spanDigits (digits ++ '.' :: fraction) = (digits, '.' :: fraction) := by
        refine spanDigits_append isDigits.2 fun c first => ?_
        cases first
        rfl
      have given : digits.isEmpty = false := List.isEmpty_eq_false_iff.2 isDigits.1
      have fractionGiven : fraction.isEmpty = false := List.isEmpty_eq_false_iff.2 isFraction.1
      simp [ofUnsigned?, split, spanDigits_digits isFraction.2, given, fractionGiven]

end PlainNumber

/-- What is taken for a number is what spells one. -/
theorem isNumeric_iff {text : List Char} : isNumeric text = true ↔ IsDecimal text := by
  rw [isNumeric]
  constructor
  · intro read
    by_cases dashed : text.head? = some '-'
    · obtain ⟨rest, rfl⟩ := List.head?_eq_some_iff.1 dashed
      rw [PlainNumber.ofChars?_minus] at read
      exact .minus (PlainNumber.isUnsigned_of_isSome read)
    · rw [PlainNumber.ofChars?_plain dashed] at read
      exact .plain (PlainNumber.isUnsigned_of_isSome read)
  · intro spelt
    cases spelt with
    | plain unsigned =>
        rw [PlainNumber.ofChars?_plain unsigned.head]
        exact PlainNumber.isSome_of_isUnsigned unsigned false
    | minus unsigned =>
        rw [PlainNumber.ofChars?_minus]
        exact PlainNumber.isSome_of_isUnsigned unsigned true

end ChatOps
