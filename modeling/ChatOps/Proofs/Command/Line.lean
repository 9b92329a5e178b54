import ChatOps.Proofs.Command.Rendering
import ChatOps.Proofs.Text.Trimming

/-!
# Lines of words

A word on a line has two parts: its lead, characters that are written as they are, and
perhaps a text behind it that is written as a token.  A line is legible if the
scanner takes every lead for itself, and a legible line is split into its words
(`tokens_line`).  Trimming a line cuts blanks off the lead of its last word and does
nothing else (`trimEnd_line`).
-/

set_option autoImplicit false

namespace ChatOps.Token

/-- A word on a line. -/
structure Word where
  lead : List Char
  text : Option (List Char)

namespace Word

def chars (word : Word) : List Char := word.lead ++ word.text.getD []

def source (word : Word) : List Char := word.lead ++ (word.text.map writeChars).getD []

/-- Whether the scanner takes the lead for itself, wherever the word stands. -/
structure IsLegible (word : Word) : Prop where
  bare : ∀ c ∈ word.lead, isBare c = true
  present : word.text = none → word.lead ≠ []

/-- Whether the word is bare up to a backslash at its very end, which stands for itself
at the end of a line. -/
def EndsEscaped (word : Word) : Prop :=
  word.text = none ∧
    ∃ bare, word.lead = bare ++ ['\\'] ∧ ∀ c ∈ bare, isBare c = true

/-- The word at the end of a line that is trimmed. -/
def cut (word : Word) : Word :=
  match word.text with
  | some _ => word
  | none => { word with lead := Text.trimEnd word.lead }

end Word

def line (words : List Word) : List Char := joinChars (words.map Word.source)

/-- Whether the scanner takes every lead on a line for itself. -/
inductive LegibleLine : List Word → Prop where
  | last {word : Word} (legible : word.IsLegible) : LegibleLine [word]
  | escaped {word : Word} (ends : word.EndsEscaped) : LegibleLine [word]
  | cons {word : Word} {rest : List Word} (legible : word.IsLegible)
      (later : LegibleLine rest) : LegibleLine (word :: rest)

theorem LegibleLine.ne_nil {words : List Word} (legible : LegibleLine words) :
    words ≠ [] := by
  cases legible <;> simp

theorem line_cons (word : Word) {rest : List Word} (more : rest ≠ []) :
    line (word :: rest) = word.source ++ ' ' :: line rest := by
  have moreSources : rest.map Word.source ≠ [] := by simpa using more
  rw [line, List.map_cons, joinChars_cons _ moreSources]
  rfl

theorem line_singleton (word : Word) : line [word] = word.source := rfl

/-! ## Splitting -/

theorem Word.IsLegible.rendering {word : Word} (legible : word.IsLegible) :
    Rendering word.source word.chars := by
  obtain ⟨lead, text⟩ := word
  obtain ⟨bare, present⟩ := legible
  cases text with
  | none =>
      have leadRendering := rendering_of_bare (present rfl) bare
      simpa [Word.source, Word.chars] using leadRendering
  | some text =>
      by_cases empty : lead = []
      · subst empty
        simpa [Word.source, Word.chars] using rendering_writeChars text
      · exact (rendering_of_bare empty bare).append (rendering_writeChars text)

theorem scan_escaped_end {bare : List Char} (isBare : ∀ c ∈ bare, isBare c = true) :
    scan none (bare ++ ['\\']) = Scan.finished.prepend (bare ++ ['\\']) := by
  have single : scan none ['\\'] = Scan.finished.prepend ['\\'] := by
    simp [scan, Scan.push_eq_prepend]
  by_cases empty : bare = []
  · subst empty
    exact single
  · rw [scan_rendering (rendering_of_bare empty isBare), single, Scan.prepend_prepend]

theorem scan_source {word : Word} (legible : word.IsLegible) (rest : List Char) :
    scan none (word.source ++ rest) = (scan none rest).prepend word.chars :=
  scan_rendering legible.rendering rest

/-- A legible line is split into its words. -/
theorem tokens_line {words : List Word} (legible : LegibleLine words) :
    (scan none (line words)).tokens = words.map Word.chars := by
  induction legible with
  | @last word legible =>
      have scanned := scan_source legible []
      rw [List.append_nil] at scanned
      rw [line_singleton, scanned]
      exact Scan.tokens_finished_prepend word.chars
  | @escaped word ends =>
      obtain ⟨lead, text⟩ := word
      obtain ⟨noText, bare, shape, isBare⟩ := ends
      change lead = bare ++ ['\\'] at shape
      cases noText
      subst shape
      rw [line_singleton, Word.source, Option.map_none, Option.getD_none,
        List.append_nil, scan_escaped_end isBare, Scan.tokens_finished_prepend]
      simp [Word.chars]
  | cons legible later inductionHypothesis =>
      have blank : Text.isBlank ' ' = true := by decide
      rw [line_cons _ later.ne_nil, scan_source legible, scan_blank blank,
        Scan.tokens_separate_prepend, inductionHypothesis, List.map_cons]

/-! ## Trimming -/

theorem last_writeChars (text : List Char) :
    ∃ front c, writeChars text = front ++ [c] ∧ Text.isBlank c = false := by
  cases quoted : needsQuotes text with
  | true =>
      refine ⟨'"' :: text.flatMap escape, '"', ?_, by decide⟩
      rw [writeChars, quoted]
      rfl
  | false =>
      obtain ⟨nonempty, bare⟩ := needsQuotes_eq_false_iff.1 quoted
      obtain ⟨front, c, shape⟩ := List.eq_nil_or_concat text |>.resolve_left nonempty
      rw [writeChars, quoted]
      refine ⟨front, c, by simpa using shape, ?_⟩
      exact (isBare_iff.1 (bare c (by simp [shape]))).1

theorem Word.source_cut (word : Word)
    (begun : word.text = none → ∃ c ∈ word.lead, Text.isBlank c = false)
    (front : List Char) : Text.trimEnd (front ++ word.source) = front ++ word.cut.source := by
  obtain ⟨lead, text⟩ := word
  cases text with
  | none =>
      simp only [Word.source, Word.cut, Option.map_none, Option.getD_none, List.append_nil]
      exact Text.trimEnd_append front (begun rfl)
  | some text =>
      obtain ⟨before, c, shape, notBlank⟩ := last_writeChars text
      apply Text.trimEnd_of_last
      simp only [Word.source, Option.map_some, Option.getD_some, shape]
      simpa [List.getLast?_append] using notBlank

def cutLast : List Word → List Word
  | [] => []
  | [last] => [last.cut]
  | word :: rest => word :: cutLast rest

theorem cutLast_cons (word : Word) {rest : List Word} (more : rest ≠ []) :
    cutLast (word :: rest) = word :: cutLast rest := by
  obtain ⟨second, others, shape⟩ := List.exists_cons_of_ne_nil more
  rw [shape, cutLast]
  simp

theorem cutLast_ne_nil {words : List Word} (nonempty : words ≠ []) :
    cutLast words ≠ [] := by
  cases words with
  | nil => exact absurd rfl nonempty
  | cons word rest => cases rest <;> simp [cutLast]

/-- Blanks at the end of a line can only belong to the lead of its last word. -/
theorem trimEnd_line {words : List Word}
    (begun : ∀ word ∈ words, word.text = none → ∃ c ∈ word.lead, Text.isBlank c = false)
    (front : List Char) (nonempty : words ≠ []) :
    Text.trimEnd (front ++ line words) = front ++ line (cutLast words) := by
  induction words generalizing front with
  | nil => exact absurd rfl nonempty
  | cons word rest inductionHypothesis =>
      by_cases last : rest = []
      · subst last
        exact word.source_cut (begun word List.mem_cons_self) front
      · have laterBegun := fun later member =>
          begun later (List.mem_cons_of_mem word member)
        have trimmedRest := inductionHypothesis laterBegun
          (front ++ (word.source ++ [' '])) last
        rw [line_cons word last, cutLast_cons word last,
          line_cons word (cutLast_ne_nil last)]
        simpa using trimmedRest

theorem cutLast_of_legible {words : List Word} (legible : LegibleLine words) :
    cutLast words = words := by
  induction legible with
  | @last word legible =>
      obtain ⟨lead, text⟩ := word
      cases text with
      | some text => rfl
      | none =>
          have kept : Text.trimEnd lead = lead := by
            apply Text.trimEnd_of_last
            intro c member
            exact (isBare_iff.1 (legible.bare c (List.mem_of_getLast? member))).1
          simp [cutLast, Word.cut, kept]
  | @escaped word ends =>
      obtain ⟨lead, text⟩ := word
      obtain ⟨noText, bare, shape, _⟩ := ends
      change lead = bare ++ ['\\'] at shape
      cases noText
      subst shape
      have kept : Text.trimEnd (bare ++ ['\\']) = bare ++ ['\\'] := by
        apply Text.trimEnd_of_last
        intro c member
        simp only [List.getLast?_concat, Option.mem_some_iff] at member
        subst member
        decide
      simp [cutLast, Word.cut, kept]
  | cons legible later inductionHypothesis =>
      rw [cutLast_cons _ later.ne_nil, inductionHypothesis]

end ChatOps.Token
