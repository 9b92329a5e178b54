import ChatOps.IssueKey
import ChatOps.Proofs.Command.RoundTrip

/-!
# The form of issue keys

Every key that is found, in whatever place of whatever text, has the form of a key
(`isKey_of_ofText?`, `isKey_of_ofCommits?`).  Such a key is written on a line as it is, and
it looks like neither a flag nor an option.
-/

set_option autoImplicit false

namespace ChatOps

namespace Text

theorem inRanges_iff {ranges : List (Nat × Nat)} {code : Nat} :
    inRanges ranges code = true ↔ ∃ range ∈ ranges, range.1 ≤ code ∧ code ≤ range.2 := by
  simp [inRanges]

theorem isBlank_of_digitRanges {c : Char} (digit : inRanges digitRanges c.toNat = true) :
    isBlank c = false := by
  have apart : ∀ digits ∈ digitRanges, ∀ blanks ∈ blankRanges,
      digits.2 < blanks.1 ∨ blanks.2 < digits.1 := by decide +kernel
  rw [Bool.eq_false_iff]
  intro blank
  obtain ⟨digits, inDigits, digitLow, digitHigh⟩ := inRanges_iff.1 digit
  obtain ⟨blanks, inBlanks, blankLow, blankHigh⟩ := inRanges_iff.1 blank
  rcases apart digits inDigits blanks inBlanks with before | after
  · omega
  · omega

theorem le_of_digitRanges {c : Char} (digit : inRanges digitRanges c.toNat = true) :
    128 ≤ c.toNat := by
  have high : ∀ digits ∈ digitRanges, 128 ≤ digits.1 := by decide +kernel
  obtain ⟨digits, inDigits, low, _⟩ := inRanges_iff.1 digit
  exact le_trans (high digits inDigits) low

end Text

namespace IssueKey

/-- Whether a text is a capital letter, more capitals or digits, a hyphen and a number. -/
inductive IsKey : List Char → Prop where
  | intro {first : Char} {project number : List Char} (capital : first.isUpper = true)
      (longer : project ≠ []) (keyChars : ∀ c ∈ project, isKeyChar c = true)
      (numbered : number ≠ []) (digits : ∀ c ∈ number, Text.isDecimalDigit c = true) :
      IsKey (first :: (project ++ '-' :: number))

/-! ## What is found is a key -/

/-- The key at the start of a text is the start of that text. -/
theorem isKey_of_atStart? {text key rest : List Char}
    (found : atStart? text = some (key, rest)) : IsKey key ∧ text = key ++ rest := by
  have whole := List.takeWhile_append_dropWhile (p := isKeyChar) (l := text)
  have keyChars : ∀ c ∈ text.takeWhile isKeyChar, isKeyChar c = true :=
    fun c member => List.mem_takeWhile_imp member
  rw [atStart?] at found
  simp only [] at found
  split at found
  · next behind dropped =>
      rw [dropped] at whole
      split at found
      · next proper =>
          cases found
          rw [Bool.and_eq_true, Bool.and_eq_true, decide_eq_true_eq, Bool.not_eq_true',
            List.isEmpty_eq_false_iff] at proper
          obtain ⟨⟨capital, longer⟩, numbered⟩ := proper
          cases shape : text.takeWhile isKeyChar with
          | nil =>
              rw [shape] at capital
              cases capital
          | cons first project =>
              rw [shape] at capital longer keyChars whole
              refine ⟨.intro capital ?_ ?_ numbered fun c => List.mem_takeWhile_imp, ?_⟩
              · rintro rfl
                simp at longer
              · exact fun c member => keyChars c (List.mem_cons_of_mem first member)
              · rw [← whole]
                simp [List.takeWhile_append_dropWhile]
      · cases found
  · cases found

theorem isKey_of_enclosed? {opening closing : Char} {text key rest : List Char}
    (found : Place.enclosed? opening closing text = some (key, rest)) : IsKey key := by
  unfold Place.enclosed? at found
  split at found
  · split at found
    · split at found
      · next inner =>
          split at found
          · cases found
            exact (isKey_of_atStart? inner).1
          · cases found
      · cases found
    · cases found
  · cases found

theorem isKey_of_standing {text key : List Char}
    (found : (match atStart? text with
      | some (key, behind) => if isEdge behind.head? then some key else none
      | none => none) = some key) : IsKey key := by
  split at found
  · next inner =>
      split at found
      · cases found
        exact (isKey_of_atStart? inner).1
      · cases found
  · cases found

theorem isKey_of_keyHere? {place : Place} {previous : Option Char} {text key : List Char}
    (found : place.keyHere? previous text = some key) : IsKey key := by
  cases place with
  | bracketed =>
      obtain ⟨both, inner, rfl⟩ := Option.map_eq_some_iff.1 found
      exact isKey_of_enclosed? inner
  | parenthesized =>
      obtain ⟨both, inner, rfl⟩ := Option.map_eq_some_iff.1 found
      exact isKey_of_enclosed? inner
  | scope =>
      simp only [Place.keyHere?] at found
      split at found
      · split at found
        · next inner =>
            split at found
            · cases found
              exact isKey_of_enclosed? inner
            · cases found
        · cases found
      · cases found
  | leading =>
      simp only [Place.keyHere?] at found
      split at found
      · split at found
        · next inner =>
            cases found
            exact (isKey_of_atStart? inner).1
        · cases found
      · cases found
  | hash =>
      simp only [Place.keyHere?] at found
      split at found
      · exact isKey_of_standing found
      · cases found
  | bare =>
      simp only [Place.keyHere?] at found
      split at found
      · exact isKey_of_standing found
      · cases found

theorem isKey_of_findFrom? {place : Place} {previous : Option Char} {text key : List Char}
    (found : place.findFrom? previous text = some key) : IsKey key := by
  induction text generalizing previous with
  | nil => cases found
  | cons c rest inductionHypothesis =>
      rw [Place.findFrom?] at found
      split at found
      · next here =>
          cases found
          exact isKey_of_keyHere? here
      · exact inductionHypothesis found

theorem isKey_of_ofText? {text key : String} (found : ofText? text = some key) :
    IsKey key.toList := by
  obtain ⟨chars, here, rfl⟩ := Option.map_eq_some_iff.1 found
  rw [String.toList_ofList]
  exact isKey_of_findFrom? here

theorem isKey_of_ofCommits? {commits : List String} {key : String}
    (found : ofCommits? commits = some key) : IsKey key.toList := by
  obtain ⟨place, _, inPlace⟩ := List.exists_of_findSome?_eq_some found
  obtain ⟨commit, _, inCommit⟩ := List.exists_of_findSome?_eq_some inPlace
  obtain ⟨chars, here, rfl⟩ := Option.map_eq_some_iff.1 inCommit
  rw [String.toList_ofList]
  exact isKey_of_findFrom? here

/-! ## Keys on a line -/

theorem isBare_of_isDecimalDigit {c : Char} (digit : Text.isDecimalDigit c = true) :
    Token.isBare c = true ∧ c ≠ '=' := by
  rw [Text.isDecimalDigit, Bool.or_eq_true] at digit
  rcases digit with ascii | other
  · have identifier : isIdentifierChar c = true := by
      simp [isIdentifierChar, Char.isAlphanum, ascii]
    refine ⟨Command.isBare_of_isIdentifierChar identifier, ?_⟩
    rintro rfl
    cases ascii
  · have high := Text.le_of_digitRanges other
    refine ⟨Token.isBare_iff.2 ⟨Text.isBlank_of_digitRanges other, ?_, ?_⟩, ?_⟩
    · rw [Bool.eq_false_iff]
      intro quote
      simp only [Token.isQuote, Bool.or_eq_true, beq_iff_eq] at quote
      rcases quote with rfl | rfl <;> exact absurd high (by decide)
    · rintro rfl
      exact absurd high (by decide)
    · rintro rfl
      exact absurd high (by decide)

theorem isBare_of_isKeyChar {c : Char} (keyChar : isKeyChar c = true) :
    Token.isBare c = true ∧ c ≠ '=' := by
  rw [isKeyChar, Bool.or_eq_true] at keyChar
  have written : (c.isUpper || c.isLower || c.isDigit || c == '-' || c == '_') = true := by
    rcases keyChar with capital | digit
    · simp [capital]
    · simp [digit]
  have identifier : isIdentifierChar c = true := written
  refine ⟨Command.isBare_of_isIdentifierChar identifier, ?_⟩
  rintro rfl
  revert keyChar
  decide

theorem IsKey.ne_nil {key : List Char} (isKey : IsKey key) : key ≠ [] := by
  cases isKey
  exact List.cons_ne_nil _ _

/-- A key is written on a line as it is, and there is no equals sign in it. -/
theorem IsKey.bare {key : List Char} (isKey : IsKey key) :
    ∀ c ∈ key, Token.isBare c = true ∧ c ≠ '=' := by
  obtain ⟨capital, _, keyChars, _, digits⟩ := isKey
  intro c member
  rcases List.mem_cons.1 member with rfl | behind
  · exact isBare_of_isKeyChar (by simp [isKeyChar, capital])
  · rcases List.mem_append.1 behind with inProject | inNumber
    · exact isBare_of_isKeyChar (keyChars c inProject)
    · rcases List.mem_cons.1 inNumber with rfl | digit
      · decide
      · exact isBare_of_isDecimalDigit (digits c digit)

end IssueKey

end ChatOps
