import ChatOps.Command.Token
import ChatOps.Text.Split

/-!
# Renderings of tokens

The ways of spelling a word on a line: bare characters, escaped characters and
quoted runs, one after another.  Scanning a rendering gives the word back
(`scan_rendering`), and what `write` makes of a text is a rendering of it
(`rendering_writeChars`).
-/

set_option autoImplicit false

namespace ChatOps.Token

/-- Whether a character stands for itself outside of quotes. -/
def isBare (c : Char) : Bool := !(Text.isBlank c || isQuote c || c == '\\')

/-- The inside of a quoted run and what it stands for.  The closing quote and the
backslash have to be escaped, and anything may be. -/
inductive Run (closing : Char) : List Char → List Char → Prop where
  | empty : Run closing [] []
  | plain {c : Char} {source word : List Char} (inside : c ≠ closing)
      (unescaped : c ≠ '\\') (rest : Run closing source word) :
      Run closing (c :: source) (c :: word)
  | escaped (c : Char) {source word : List Char} (rest : Run closing source word) :
      Run closing ('\\' :: c :: source) (c :: word)

/-- A piece of a word and what it stands for. -/
inductive Piece : List Char → List Char → Prop where
  | bare {c : Char} (bare : isBare c = true) : Piece [c] [c]
  | escaped (c : Char) : Piece ['\\', c] [c]
  | quoted {quote : Char} {source word : List Char} (isOpening : isQuote quote = true)
      (run : Run quote source word) : Piece (quote :: (source ++ [quote])) word

/-- A spelling of a word: pieces one after another, at least one. -/
inductive Rendering : List Char → List Char → Prop where
  | single {source word : List Char} (piece : Piece source word) :
      Rendering source word
  | cons {source word later laterWord : List Char} (piece : Piece source word)
      (rest : Rendering later laterWord) : Rendering (source ++ later) (word ++ laterWord)

theorem Rendering.append {source word later laterWord : List Char}
    (first : Rendering source word) (second : Rendering later laterWord) :
    Rendering (source ++ later) (word ++ laterWord) := by
  induction first with
  | single piece => exact .cons piece second
  | cons piece _ inductionHypothesis =>
      rw [List.append_assoc, List.append_assoc]
      exact .cons piece inductionHypothesis

/-! ## Scanning -/

/-- The current token with a word in front of it. -/
def Scan.prepend (word : List Char) (scan : Scan) : Scan :=
  { scan with current := some (word ++ scan.current.getD []) }

theorem Scan.push_eq_prepend (c : Char) (scan : Scan) :
    scan.push c = scan.prepend [c] := rfl

theorem Scan.start_eq_prepend (scan : Scan) : scan.start = scan.prepend [] := rfl

@[simp] theorem Scan.prepend_prepend (word later : List Char) (scan : Scan) :
    (scan.prepend later).prepend word = scan.prepend (word ++ later) := by
  simp [Scan.prepend]

@[simp] theorem Scan.tokens_separate_prepend (word : List Char) (scan : Scan) :
    (scan.separate.prepend word).tokens = word :: scan.tokens := by
  simp [Scan.prepend, Scan.separate, Scan.tokens]

@[simp] theorem Scan.tokens_finished_prepend (word : List Char) :
    (Scan.finished.prepend word).tokens = [word] := by
  simp [Scan.prepend, Scan.finished, Scan.tokens]

theorem scan_escaped (quote : Option Char) (c : Char) (rest : List Char) :
    scan quote ('\\' :: c :: rest) = (scan quote rest).prepend [c] := by
  simp [scan, Scan.push_eq_prepend]

theorem scan_outside {c : Char} (unescaped : c ≠ '\\') (rest : List Char) :
    scan none (c :: rest) =
      if isQuote c then (scan (some c) rest).start
      else if Text.isBlank c then (scan none rest).separate
      else (scan none rest).push c := by
  cases rest <;> simp [scan, unescaped]

theorem scan_inside {c : Char} (unescaped : c ≠ '\\') (closing : Char)
    (rest : List Char) :
    scan (some closing) (c :: rest) =
      if c = closing then scan none rest else (scan (some closing) rest).push c := by
  cases rest <;> simp [scan, unescaped]

theorem isBare_iff {c : Char} :
    isBare c = true ↔ Text.isBlank c = false ∧ isQuote c = false ∧ c ≠ '\\' := by
  simp [isBare, and_assoc]

theorem scan_bare {c : Char} (bare : isBare c = true) (rest : List Char) :
    scan none (c :: rest) = (scan none rest).prepend [c] := by
  obtain ⟨notBlank, notQuote, notEscape⟩ := isBare_iff.1 bare
  rw [scan_outside notEscape, notBlank, notQuote]
  rfl

theorem quote_ne_backslash {quote : Char} (isOpening : isQuote quote = true) :
    quote ≠ '\\' := by
  rintro rfl
  revert isOpening
  decide

/-- From inside a run the closing quote leads out again.  Nothing may have been read,
so the token is only sure to have begun. -/
theorem scan_run {quote : Char} (isOpening : isQuote quote = true)
    {source word : List Char} (run : Run quote source word) (rest : List Char) :
    (scan (some quote) (source ++ quote :: rest)).start =
      (scan none rest).prepend word := by
  have notEscape := quote_ne_backslash isOpening
  induction run with
  | empty =>
      rw [List.nil_append, scan_inside notEscape, if_pos rfl]
      rfl
  | plain inside unescaped _ inductionHypothesis =>
      rw [List.cons_append, scan_inside unescaped, if_neg inside]
      rw [Scan.start_eq_prepend] at inductionHypothesis ⊢
      rw [Scan.push_eq_prepend, Scan.prepend_prepend]
      simpa [Scan.prepend] using inductionHypothesis
  | escaped c _ inductionHypothesis =>
      rw [List.cons_append, List.cons_append, scan_escaped]
      rw [Scan.start_eq_prepend] at inductionHypothesis ⊢
      rw [Scan.prepend_prepend]
      simpa [Scan.prepend] using inductionHypothesis

theorem scan_piece {source word : List Char} (piece : Piece source word)
    (rest : List Char) :
    scan none (source ++ rest) = (scan none rest).prepend word := by
  cases piece with
  | bare bare => exact scan_bare bare rest
  | escaped c => exact scan_escaped none c rest
  | @quoted quote source _ isOpening run =>
      have reshaped : quote :: (source ++ [quote]) ++ rest =
          quote :: (source ++ quote :: rest) := by simp
      rw [reshaped, scan_outside (quote_ne_backslash isOpening), if_pos isOpening]
      exact scan_run isOpening run rest

theorem scan_rendering {source word : List Char} (rendering : Rendering source word)
    (rest : List Char) :
    scan none (source ++ rest) = (scan none rest).prepend word := by
  induction rendering with
  | single piece => exact scan_piece piece rest
  | cons piece _ inductionHypothesis =>
      rw [List.append_assoc, scan_piece piece, inductionHypothesis,
        Scan.prepend_prepend]

theorem scan_blank {c : Char} (blank : Text.isBlank c = true) (rest : List Char) :
    scan none (c :: rest) = (scan none rest).separate := by
  have notEscape : c ≠ '\\' := by
    rintro rfl
    revert blank
    decide
  have notQuote : isQuote c = false := by
    rw [Bool.eq_false_iff]
    intro quote
    simp only [isQuote, Bool.or_eq_true, beq_iff_eq] at quote
    rcases quote with rfl | rfl <;> revert blank <;> decide
  simp [scan_outside notEscape, notQuote, blank]

/-! ## Writing -/

theorem rendering_of_bare {text : List Char} (nonempty : text ≠ [])
    (bare : ∀ c ∈ text, isBare c = true) : Rendering text text := by
  induction text with
  | nil => exact absurd rfl nonempty
  | cons c rest inductionHypothesis =>
      have first : Piece [c] [c] := .bare (bare c List.mem_cons_self)
      by_cases last : rest = []
      · subst last
        exact .single first
      · exact .cons first (inductionHypothesis last
          fun d member => bare d (List.mem_cons_of_mem _ member))

theorem run_escape (text : List Char) : Run '"' (text.flatMap escape) text := by
  induction text with
  | nil => exact .empty
  | cons c rest inductionHypothesis =>
      rw [List.flatMap_cons]
      by_cases special : c = '"' ∨ c = '\\'
      · rw [escape, if_pos special]
        exact .escaped c inductionHypothesis
      · rw [escape, if_neg special]
        rw [not_or] at special
        exact .plain special.1 special.2 inductionHypothesis

theorem needsQuotes_eq_false_iff {text : List Char} :
    needsQuotes text = false ↔ text ≠ [] ∧ ∀ c ∈ text, isBare c = true := by
  simp only [needsQuotes, Bool.or_eq_false_iff, List.isEmpty_eq_false_iff,
    List.any_eq_false, isBare, Bool.not_eq_eq_eq_not, Bool.not_true,
    Bool.not_eq_true]

theorem rendering_writeChars (text : List Char) : Rendering (writeChars text) text := by
  cases quoted : needsQuotes text with
  | false =>
      obtain ⟨nonempty, bare⟩ := needsQuotes_eq_false_iff.1 quoted
      rw [writeChars, quoted]
      exact rendering_of_bare nonempty bare
  | true =>
      rw [writeChars, quoted]
      exact .single (.quoted (by decide) (run_escape text))

/-! ## Lines -/

/-- Spellings one after another with a blank between them. -/
def joinChars : List (List Char) → List Char
  | [] => []
  | [last] => last
  | first :: rest => first ++ ' ' :: joinChars rest

theorem toList_join (texts : List String) :
    (Text.join " " texts).toList = joinChars (texts.map String.toList) := by
  induction texts with
  | nil => rfl
  | cons first rest inductionHypothesis =>
      cases rest with
      | nil => rfl
      | cons second others =>
          simp only [Text.join, joinChars, List.map_cons, String.toList_append] at *
          simp [inductionHypothesis]

theorem joinChars_cons (first : List Char) {rest : List (List Char)} (more : rest ≠ []) :
    joinChars (first :: rest) = first ++ ' ' :: joinChars rest := by
  obtain ⟨second, others, shape⟩ := List.exists_cons_of_ne_nil more
  rw [shape, joinChars]
  simp

end ChatOps.Token
