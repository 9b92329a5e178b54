/-!
# Splitting text

Cutting a text at a separator, testing what it starts and ends with, and joining
pieces.  The laws say that a cut loses nothing but its separator.
-/

set_option autoImplicit false

namespace ChatOps.Text

/-- The text before and after the first separator. -/
def cut? (separator : Char) : List Char → Option (List Char × List Char)
  | [] => none
  | c :: rest =>
      if c = separator then some ([], rest)
      else (cut? separator rest).map fun halves => (c :: halves.1, halves.2)

/-- The pieces between the characters that separate. -/
def splitOn (separates : Char → Bool) : List Char → List (List Char)
  | [] => [[]]
  | c :: rest =>
      if separates c then [] :: splitOn separates rest
      else
        match splitOn separates rest with
        | [] => [[c]]
        | piece :: others => (c :: piece) :: others

/-- The text after a leading part, if the text starts with it. -/
def afterStart? : List Char → List Char → Option (List Char)
  | [], text => some text
  | _ :: _, [] => none
  | c :: start, d :: text => if c = d then afterStart? start text else none

/-- The text before a final part, if the text ends with it. -/
def beforeEnd? (finish text : List Char) : Option (List Char) :=
  (afterStart? finish.reverse text.reverse).map List.reverse

/-- Whether one text occurs in another. -/
def occursIn (part : List Char) : List Char → Bool
  | [] => part.isEmpty
  | c :: rest => (afterStart? part (c :: rest)).isSome || occursIn part rest

/-- The strings one after another with a separator between them. -/
def join (separator : String) : List String → String
  | [] => ""
  | [last] => last
  | first :: rest => first ++ separator ++ join separator rest

/-! ## Laws -/

theorem cut?_eq_some {separator : Char} {text before after : List Char}
    (found : cut? separator text = some (before, after)) :
    text = before ++ separator :: after ∧ separator ∉ before := by
  induction text generalizing before with
  | nil => simp [cut?] at found
  | cons c rest inductionHypothesis =>
      rw [cut?] at found
      split at found
      · next same =>
          cases found
          exact ⟨by rw [same]; rfl, by simp⟩
      · next different =>
          obtain ⟨halves, inner, equal⟩ := Option.map_eq_some_iff.1 found
          cases equal
          obtain ⟨whole, absent⟩ := inductionHypothesis inner
          refine ⟨by rw [whole]; rfl, ?_⟩
          simp only [List.mem_cons, not_or]
          exact ⟨fun same => different same.symm, absent⟩

theorem cut?_eq_none_iff {separator : Char} {text : List Char} :
    cut? separator text = none ↔ separator ∉ text := by
  induction text with
  | nil => simp [cut?]
  | cons c rest inductionHypothesis =>
      by_cases same : c = separator
      · simp [cut?, same]
      · simp [cut?, same, inductionHypothesis, Ne.symm same]

/-- A text without the separator is cut where the separator follows it. -/
theorem cut?_append {separator : Char} {before : List Char}
    (absent : separator ∉ before) (after : List Char) :
    cut? separator (before ++ separator :: after) = some (before, after) := by
  induction before with
  | nil => simp [cut?]
  | cons c rest inductionHypothesis =>
      simp only [List.mem_cons, not_or] at absent
      simp [cut?, Ne.symm absent.1, inductionHypothesis absent.2]

theorem afterStart?_eq_some_iff {start text rest : List Char} :
    afterStart? start text = some rest ↔ text = start ++ rest := by
  induction start generalizing text with
  | nil => simp [afterStart?, eq_comm]
  | cons c start inductionHypothesis =>
      cases text with
      | nil => simp [afterStart?]
      | cons d text =>
          by_cases same : c = d
          · simp [afterStart?, same, inductionHypothesis]
          · simp [afterStart?, same, Ne.symm same]

end ChatOps.Text
