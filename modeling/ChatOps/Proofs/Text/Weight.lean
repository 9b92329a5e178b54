import ChatOps.Proofs.Text.Trimming

/-!
# Weights of texts

A text is weighed by the characters in it that a scanner of tokens treats apart.  Only
their order matters: a blank weighs one, a double quote more than all blanks of a line
together, and everything that can hide a double quote more than all of these.  The
letter u counts with the last, because JSON can write any character with it.
-/

set_option autoImplicit false

namespace ChatOps.Text

/-- How much double quotes weigh, and how much the heaviest characters. -/
structure Scale where
  quote : Nat
  heavy : Nat
  blank_le : 1 ≤ quote
  quote_le : quote ≤ heavy

def charWeight (scale : Scale) (c : Char) : Nat :=
  if c = '"' then scale.quote
  else if c = '\\' ∨ c = '\'' ∨ c = 'u' ∨ c = 'U' then scale.heavy
  else if isBlank c then 1
  else 0

def weight (scale : Scale) (text : List Char) : Nat := (text.map (charWeight scale)).sum

variable (scale : Scale)

theorem one_le_heavy : 1 ≤ scale.heavy := le_trans scale.blank_le scale.quote_le

@[simp] theorem charWeight_quote : charWeight scale '"' = scale.quote := rfl

@[simp] theorem charWeight_backslash : charWeight scale '\\' = scale.heavy := rfl

@[simp] theorem charWeight_apostrophe : charWeight scale '\'' = scale.heavy := rfl

theorem charWeight_blank {c : Char} (blank : isBlank c = true) : charWeight scale c = 1 := by
  have notQuote : c ≠ '"' := by
    rintro rfl
    revert blank
    decide
  have notHeavy : ¬ (c = '\\' ∨ c = '\'' ∨ c = 'u' ∨ c = 'U') := by
    rintro (rfl | rfl | rfl | rfl) <;> revert blank <;> decide
  rw [charWeight, if_neg notQuote, if_neg notHeavy, if_pos blank]

theorem charWeight_le (c : Char) : charWeight scale c ≤ scale.heavy := by
  have positive := one_le_heavy scale
  have quote := scale.quote_le
  rw [charWeight]
  split
  · exact quote
  · split
    · exact le_rfl
    · split
      · exact positive
      · exact Nat.zero_le _

/-- Digits, capitals up to T and the signs between them weigh nothing. -/
theorem charWeight_eq_zero {c : Char} (low : 40 ≤ c.toNat) (high : c.toNat ≤ 84) :
    charWeight scale c = 0 := by
  have notQuote : c ≠ '"' := by
    rintro rfl
    revert low
    decide
  have notHeavy : ¬ (c = '\\' ∨ c = '\'' ∨ c = 'u' ∨ c = 'U') := by
    rintro (rfl | rfl | rfl | rfl)
    · revert high
      decide
    · revert low
      decide
    · revert high
      decide
    · revert high
      decide
  have notBlank : ¬ isBlank c = true := by
    intro blank
    have range := isBlank_range blank
    omega
  rw [charWeight, if_neg notQuote, if_neg notHeavy, if_neg notBlank]

theorem charWeight_isDigit {c : Char} (digit : c.isDigit = true) : charWeight scale c = 0 := by
  simp only [Char.isDigit, Bool.and_eq_true, decide_eq_true_eq, ge_iff_le,
    UInt32.le_iff_toNat_le] at digit
  exact charWeight_eq_zero scale (le_trans (by decide) digit.1)
    (le_trans digit.2 (by decide))

theorem charWeight_toLower (c : Char) : charWeight scale c.toLower = charWeight scale c := by
  refine toLower_rule (motive := fun c d => charWeight scale d = charWeight scale c)
    (fun _ => rfl) ?_ c
  intro n small
  interval_cases n <;> rfl

@[simp] theorem weight_nil : weight scale [] = 0 := rfl

@[simp] theorem weight_cons (c : Char) (text : List Char) :
    weight scale (c :: text) = charWeight scale c + weight scale text := by
  simp [weight]

@[simp] theorem weight_append (front back : List Char) :
    weight scale (front ++ back) = weight scale front + weight scale back := by
  simp [weight]

theorem weight_reverse (text : List Char) : weight scale text.reverse = weight scale text := by
  simp [weight]

theorem weight_eq_zero {text : List Char} (light : ∀ c ∈ text, charWeight scale c = 0) :
    weight scale text = 0 := by
  induction text with
  | nil => rfl
  | cons c rest inductionHypothesis =>
      rw [weight_cons, light c List.mem_cons_self,
        inductionHypothesis fun d member => light d (List.mem_cons_of_mem c member)]

theorem weight_map_toLower (text : List Char) :
    weight scale (text.map Char.toLower) = weight scale text := by
  induction text with
  | nil => rfl
  | cons c rest inductionHypothesis =>
      rw [List.map_cons, weight_cons, weight_cons, charWeight_toLower, inductionHypothesis]

theorem weight_trim_le (text : List Char) : weight scale (trim text) ≤ weight scale text := by
  obtain ⟨front, back, _, _, whole⟩ := exists_trim text
  have total := congrArg (weight scale) whole
  rw [weight_append, weight_append] at total
  omega

theorem weight_trimEnd_lt {text : List Char} (changed : trimEnd text ≠ text) :
    weight scale (trimEnd text) < weight scale text := by
  obtain ⟨back, blank, whole⟩ := exists_trimEnd text
  have total := congrArg (weight scale) whole
  rw [weight_append] at total
  cases back with
  | nil =>
      rw [List.append_nil] at whole
      exact absurd whole.symm changed
  | cons c rest =>
      rw [weight_cons, charWeight_blank scale (blank c List.mem_cons_self)] at total
      omega

end ChatOps.Text
