import ChatOps.Text.Letter
import Mathlib.Data.List.TakeWhile
import Mathlib.Tactic.IntervalCases

/-!
# Trimming and letter case

Trimming cuts blanks off both ends and nothing else (`exists_trim`), and it does the
same to a text in any case of its ASCII letters (`trimmed_asciiLower`).
-/

set_option autoImplicit false

namespace ChatOps.Text

/-! ## ASCII letters -/

/-- A character is its own lower case, or one of the 26 capitals. -/
theorem toLower_cases (c : Char) :
    c.toLower = c ∨
      ∃ n, n < 26 ∧ c = Char.ofNat (65 + n) ∧ c.toLower = Char.ofNat (97 + n) := by
  by_cases capital : c.val ≥ 'A'.val ∧ c.val ≤ 'Z'.val
  · right
    have low : 65 ≤ c.toNat := UInt32.le_iff_toNat_le.1 capital.1
    have high : c.toNat ≤ 90 := UInt32.le_iff_toNat_le.1 capital.2
    have known : c = Char.ofNat (65 + (c.toNat - 65)) := by
      rw [Nat.add_sub_cancel' low, Char.ofNat_toNat]
    refine ⟨c.toNat - 65, by omega, known, ?_⟩
    have small : c.toNat - 65 < 26 := by omega
    rw [known]
    generalize c.toNat - 65 = n at small
    interval_cases n <;> rfl
  · left
    exact dif_neg capital

/-- What holds of a character and itself, and of each capital and its small letter,
holds of every character and its lower case. -/
theorem toLower_rule {motive : Char → Char → Prop} (same : ∀ c, motive c c)
    (capital : ∀ n, n < 26 → motive (Char.ofNat (65 + n)) (Char.ofNat (97 + n)))
    (c : Char) : motive c c.toLower := by
  rcases toLower_cases c with equal | ⟨n, small, known, lower⟩
  · rw [equal]
    exact same c
  · rw [lower, known]
    exact capital n small

@[simp] theorem toLower_toLower (c : Char) : c.toLower.toLower = c.toLower := by
  rcases toLower_cases c with equal | ⟨n, small, _, lower⟩
  · rw [equal, equal]
  · rw [lower]
    interval_cases n <;> rfl

@[simp] theorem isBlank_toLower (c : Char) : isBlank c.toLower = isBlank c := by
  refine toLower_rule (motive := fun c d => isBlank d = isBlank c) (fun _ => rfl) ?_ c
  intro n small
  interval_cases n <;> rfl

theorem toLower_eq_colon_iff (c : Char) : c.toLower = ':' ↔ c = ':' := by
  refine toLower_rule (motive := fun c d => d = ':' ↔ c = ':') (fun _ => Iff.rfl) ?_ c
  intro n small
  interval_cases n <;> decide

@[simp] theorem asciiLower_asciiLower (text : String) :
    asciiLower (asciiLower text) = asciiLower text := by
  simp [asciiLower, Function.comp_def]

theorem colon_mem_asciiLower_iff (text : String) :
    ':' ∈ (asciiLower text).toList ↔ ':' ∈ text.toList := by
  simp [asciiLower, toLower_eq_colon_iff]

/-! ## Trimming -/

theorem isBlank_range {c : Char} (blank : isBlank c = true) :
    c.toNat ≤ 32 ∨ 133 ≤ c.toNat := by
  simp only [isBlank, inRanges, blankRanges, List.any_cons, List.any_nil, Bool.or_eq_true,
    Bool.and_eq_true, Nat.ble_eq, Bool.false_eq_true, or_false] at blank
  omega

theorem exists_trimStart (text : List Char) :
    ∃ front, (∀ c ∈ front, isBlank c = true) ∧ text = front ++ trimStart text := by
  refine ⟨text.takeWhile isBlank, ?_, ?_⟩
  · intro c member
    exact List.mem_takeWhile_imp member
  · rw [trimStart, List.takeWhile_append_dropWhile]

theorem exists_trimEnd (text : List Char) :
    ∃ back, (∀ c ∈ back, isBlank c = true) ∧ text = trimEnd text ++ back := by
  obtain ⟨front, blank, whole⟩ := exists_trimStart text.reverse
  refine ⟨front.reverse, ?_, ?_⟩
  · intro c member
    exact blank c (List.mem_reverse.1 member)
  · have turned := congrArg List.reverse whole
    rwa [List.reverse_reverse, List.reverse_append] at turned

/-- Trimming cuts off blanks at both ends. -/
theorem exists_trim (text : List Char) :
    ∃ front back, (∀ c ∈ front, isBlank c = true) ∧ (∀ c ∈ back, isBlank c = true) ∧
      text = front ++ trim text ++ back := by
  obtain ⟨front, frontBlank, whole⟩ := exists_trimStart text
  obtain ⟨back, backBlank, inner⟩ := exists_trimEnd (trimStart text)
  refine ⟨front, back, frontBlank, backBlank, ?_⟩
  rw [trim, List.append_assoc, ← inner, ← whole]

theorem mem_of_mem_trim {text : List Char} {c : Char} (inside : c ∈ trim text) : c ∈ text := by
  obtain ⟨front, back, _, _, whole⟩ := exists_trim text
  rw [whole]
  exact List.mem_append_left _ (List.mem_append_right _ inside)

theorem trimStart_of_head {text : List Char}
    (first : ∀ c ∈ text.head?, isBlank c = false) : trimStart text = text := by
  cases text with
  | nil => rfl
  | cons c rest =>
      have notBlank := first c rfl
      rw [trimStart, List.dropWhile_cons_of_neg (by simp [notBlank])]

theorem trimEnd_of_last {text : List Char}
    (last : ∀ c ∈ text.getLast?, isBlank c = false) : trimEnd text = text := by
  rw [trimEnd, trimStart_of_head, List.reverse_reverse]
  simpa using last

theorem trimEnd_append (front : List Char) {text : List Char}
    (inked : ∃ c ∈ text, isBlank c = false) :
    trimEnd (front ++ text) = front ++ trimEnd text := by
  have some : ∃ c ∈ text.reverse, ¬ isBlank c = true := by simpa using inked
  obtain ⟨c, member, notBlank⟩ := some
  rw [trimEnd, trimEnd, trimStart, List.reverse_append, List.dropWhile_append]
  have left : (List.dropWhile isBlank text.reverse).isEmpty = false := by
    rw [List.isEmpty_eq_false_iff]
    intro empty
    exact notBlank (List.dropWhile_eq_nil_iff.1 empty c member)
  rw [left, if_neg Bool.false_ne_true, List.reverse_append, List.reverse_reverse]
  rfl

/-- A text with nothing blank at its ends stays as it is. -/
theorem trim_of_ends {text : List Char}
    (first : ∀ c ∈ text.head?, isBlank c = false)
    (last : ∀ c ∈ text.getLast?, isBlank c = false) : trim text = text := by
  rw [trim, trimStart_of_head first, trimEnd_of_last last]

/-- A string without blanks stays as it is. -/
theorem trimmed_of_solid {text : String} (solid : ∀ c ∈ text.toList, isBlank c = false) :
    trimmed text = text := by
  have kept : trim text.toList = text.toList := by
    apply trim_of_ends
    · intro c first
      exact solid c (List.mem_of_head? first)
    · intro c last
      exact solid c (List.mem_of_getLast? last)
  rw [trimmed, kept, String.ofList_toList]

theorem head_trimStart (text : List Char) :
    ∀ c ∈ (trimStart text).head?, isBlank c = false := by
  intro c first
  have check := List.head?_dropWhile_not isBlank text
  rw [trimStart] at first
  rw [Option.mem_def] at first
  rw [first] at check
  simpa using check

theorem last_trimEnd (text : List Char) :
    ∀ c ∈ (trimEnd text).getLast?, isBlank c = false := by
  intro c last
  rw [trimEnd, List.getLast?_reverse] at last
  exact head_trimStart text.reverse c last

theorem head_trim (text : List Char) : ∀ c ∈ (trim text).head?, isBlank c = false := by
  intro c first
  obtain ⟨back, _, whole⟩ := exists_trimEnd (trimStart text)
  apply head_trimStart text c
  rw [whole]
  rw [trim] at first
  cases shape : trimEnd (trimStart text) with
  | nil => rw [shape] at first; cases first
  | cons d rest => rwa [shape] at first

theorem last_trim (text : List Char) : ∀ c ∈ (trim text).getLast?, isBlank c = false :=
  last_trimEnd (trimStart text)

@[simp] theorem trim_trim (text : List Char) : trim (trim text) = trim text :=
  trim_of_ends (head_trim text) (last_trim text)

@[simp] theorem trimmed_trimmed (text : String) : trimmed (trimmed text) = trimmed text := by
  simp [trimmed]

theorem trimStart_map {change : Char → Char} (keeps : ∀ c, isBlank (change c) = isBlank c)
    (text : List Char) : trimStart (text.map change) = (trimStart text).map change := by
  rw [trimStart, List.dropWhile_map]
  congr 2
  funext c
  exact keeps c

theorem trim_map {change : Char → Char} (keeps : ∀ c, isBlank (change c) = isBlank c)
    (text : List Char) : trim (text.map change) = (trim text).map change := by
  simp only [trim, trimEnd, trimStart_map keeps, ← List.map_reverse]

theorem trimmed_asciiLower (text : String) :
    trimmed (asciiLower text) = asciiLower (trimmed text) := by
  simp [trimmed, asciiLower, trim_map isBlank_toLower]

end ChatOps.Text
