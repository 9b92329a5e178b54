import ChatOps.Proofs.Command.Line
import ChatOps.Proofs.Text.Weight

/-!
# Weights of scanned lines

The tokens of a line never weigh more than the words that it was written for, and less
if some lead is not taken for itself (`scanned_lt_of_not_legible`).  A quote in a lead
may make blanks between words, and the double quotes around written texts, part of a
token, but it is not part of a token itself; the scale makes it outweigh all that
follows.
-/

set_option autoImplicit false

namespace ChatOps.Token

open ChatOps.Text

variable (scale : Scale)

def tokensWeight (tokens : List (List Char)) : Nat := (tokens.map (weight scale)).sum

def lineWeight (words : List Word) : Nat :=
  (words.map fun word => weight scale word.chars).sum

theorem lineWeight_cons (word : Word) (rest : List Word) :
    lineWeight scale (word :: rest) = weight scale word.chars + lineWeight scale rest := by
  simp [lineWeight]

/-- The weight of what is scanned from inside the given quotes or from outside. -/
def scanned (quote : Option Char) (text : List Char) : Nat :=
  tokensWeight scale (scan quote text).tokens

theorem tokensWeight_prepend (word : List Char) (scan : Scan) :
    tokensWeight scale (scan.prepend word).tokens =
      weight scale word + tokensWeight scale scan.tokens := by
  obtain ⟨current, later⟩ := scan
  cases current <;> simp [Scan.prepend, Scan.tokens, tokensWeight, Nat.add_assoc]

theorem tokensWeight_separate (scan : Scan) :
    tokensWeight scale scan.separate.tokens = tokensWeight scale scan.tokens := by
  simp [Scan.separate, Scan.tokens]

@[simp] theorem scanned_nil (quote : Option Char) : scanned scale quote [] = 0 := by
  cases quote <;> rfl

theorem scanned_escaped (quote : Option Char) (c : Char) (rest : List Char) :
    scanned scale quote ('\\' :: c :: rest) = charWeight scale c + scanned scale quote rest := by
  rw [scanned, scan_escaped, tokensWeight_prepend, weight_cons, weight_nil, Nat.add_zero]
  rfl

theorem scanned_backslash (quote : Option Char) :
    scanned scale quote ['\\'] = scale.heavy := by
  cases quote <;> simp [scanned, scan, Scan.push, Scan.finished, Scan.tokens, tokensWeight]

theorem scanned_outside {c : Char} (unescaped : c ≠ '\\') (rest : List Char) :
    scanned scale none (c :: rest) =
      if isQuote c then scanned scale (some c) rest
      else if isBlank c then scanned scale none rest
      else charWeight scale c + scanned scale none rest := by
  rw [scanned, scan_outside unescaped]
  split
  · rw [Scan.start_eq_prepend, tokensWeight_prepend, weight_nil, Nat.zero_add]
    rfl
  · split
    · rw [tokensWeight_separate]
      rfl
    · rw [Scan.push_eq_prepend, tokensWeight_prepend, weight_cons, weight_nil, Nat.add_zero]
      rfl

theorem scanned_inside {c : Char} (unescaped : c ≠ '\\') (closing : Char)
    (rest : List Char) :
    scanned scale (some closing) (c :: rest) =
      if c = closing then scanned scale none rest
      else charWeight scale c + scanned scale (some closing) rest := by
  rw [scanned, scan_inside unescaped]
  split
  · rfl
  · rw [Scan.push_eq_prepend, tokensWeight_prepend, weight_cons, weight_nil, Nat.add_zero]
    rfl

/-! ## Bounds -/

/-- Whether a scale makes quotes outweigh that many gaps between words and that many
written texts. -/
structure Fits (gaps texts : Nat) : Prop where
  quote : gaps < scale.quote
  heavy : gaps + 2 * scale.quote * texts + 2 * scale.quote < scale.heavy

/-- Bounds on the rest of a line, for scanning it from outside of quotes, from inside
double ones and from inside single ones, and for when a backslash stands in front. -/
structure Bounded (content gaps texts : Nat) (text : List Char) : Prop where
  outside : scanned scale none text ≤ content
  double : scanned scale (some '"') text ≤ content + gaps
  single : scanned scale (some '\'') text ≤ content + gaps + 2 * scale.quote * texts
  escapedOutside : text ≠ [] → scanned scale none ('\\' :: text) < scale.heavy + content
  escapedDouble : text ≠ [] →
    scanned scale (some '"') ('\\' :: text) < scale.heavy + content + gaps
  escapedSingle : text ≠ [] → scanned scale (some '\'') ('\\' :: text) <
    scale.heavy + content + gaps + 2 * scale.quote * texts

variable {scale} {content gaps texts : Nat} {text : List Char}

theorem isQuote_iff {c : Char} : isQuote c = true ↔ c = '"' ∨ c = '\'' := by
  simp [isQuote]

theorem Fits.fewer (fits : Fits scale (gaps + 1) (texts + 1)) : Fits scale gaps texts := by
  have grown : 2 * scale.quote * (texts + 1) = 2 * scale.quote * texts + 2 * scale.quote :=
    Nat.mul_succ _ _
  obtain ⟨quote, heavy⟩ := fits
  exact ⟨by omega, by omega⟩

theorem Bounded.nil : Bounded scale 0 0 0 [] where
  outside := by simp
  double := by simp
  single := by simp
  escapedOutside := fun some => absurd rfl some
  escapedDouble := fun some => absurd rfl some
  escapedSingle := fun some => absurd rfl some

theorem Bounded.moreGaps (bounded : Bounded scale content gaps texts text) :
    Bounded scale content (gaps + 1) texts text := by
  obtain ⟨outside, double, single, escapedOutside, escapedDouble, escapedSingle⟩ := bounded
  refine ⟨outside, by omega, by omega, escapedOutside, ?_, ?_⟩
  · intro some
    have := escapedDouble some
    omega
  · intro some
    have := escapedSingle some
    omega

theorem Bounded.moreTexts (bounded : Bounded scale content gaps texts text) :
    Bounded scale content gaps (texts + 1) text := by
  have grown : 2 * scale.quote * (texts + 1) = 2 * scale.quote * texts + 2 * scale.quote :=
    Nat.mul_succ _ _
  obtain ⟨outside, double, single, escapedOutside, escapedDouble, escapedSingle⟩ := bounded
  refine ⟨outside, double, by omega, escapedOutside, escapedDouble, ?_⟩
  intro some
  have := escapedSingle some
  omega

/-- A character of a lead in front adds at most its own weight. -/
theorem Bounded.cons (fits : Fits scale gaps texts)
    (bounded : Bounded scale content gaps texts text) (c : Char) :
    Bounded scale (content + charWeight scale c) gaps texts (c :: text) := by
  obtain ⟨quote, heavy⟩ := fits
  obtain ⟨outside, double, single, escapedOutside, escapedDouble, escapedSingle⟩ := bounded
  by_cases escape : c = '\\'
  · subst escape
    have alone := scanned_backslash scale
    rw [charWeight_backslash]
    by_cases last : text = []
    · subst last
      refine ⟨?_, ?_, ?_, fun _ => ?_, fun _ => ?_, fun _ => ?_⟩
      all_goals
        simp only [alone, scanned_escaped, scanned_nil, charWeight_backslash]
        omega
    · have first := escapedOutside last
      have second := escapedDouble last
      have third := escapedSingle last
      refine ⟨by omega, by omega, by omega, fun _ => ?_, fun _ => ?_, fun _ => ?_⟩
      all_goals
        simp only [scanned_escaped, charWeight_backslash]
        omega
  · have doubleQuote := charWeight_quote scale
    have apostrophe := charWeight_apostrophe scale
    refine ⟨?_, ?_, ?_, fun _ => ?_, fun _ => ?_, fun _ => ?_⟩
    · rw [scanned_outside scale escape]
      split
      · next isQuote =>
          rcases isQuote_iff.1 isQuote with rfl | rfl
          · omega
          · omega
      · split
        · omega
        · omega
    · rw [scanned_inside scale escape]
      split
      · omega
      · omega
    · rw [scanned_inside scale escape]
      split
      · omega
      · omega
    all_goals
      rw [scanned_escaped]
      omega

/-- The blank between two words adds its weight only inside quotes. -/
theorem Bounded.gap (fits : Fits scale gaps texts)
    (bounded : Bounded scale content gaps texts text) :
    Bounded scale content (gaps + 1) texts (' ' :: text) := by
  have one : charWeight scale ' ' = 1 := rfl
  obtain ⟨quote, heavy⟩ := fits
  obtain ⟨outside, double, single, _, _, _⟩ := bounded
  refine ⟨?_, ?_, ?_, fun _ => ?_, fun _ => ?_, fun _ => ?_⟩
  · rw [scanned_outside scale (by decide), if_neg (by decide), if_pos (by decide)]
    exact outside
  · rw [scanned_inside scale (by decide), if_neg (by decide)]
    omega
  · rw [scanned_inside scale (by decide), if_neg (by decide)]
    omega
  all_goals
    rw [scanned_escaped]
    omega

theorem Bounded.append (fits : Fits scale gaps texts)
    (bounded : Bounded scale content gaps texts text) (front : List Char) :
    Bounded scale (content + weight scale front) gaps texts (front ++ text) := by
  induction front with
  | nil => exact bounded
  | cons c rest inductionHypothesis =>
      have longer := inductionHypothesis.cons fits c
      rw [weight_cons, Nat.add_comm (charWeight scale c), ← Nat.add_assoc]
      exact longer

/-- Escaped characters add at most their own weight, whatever the quotes around them,
because a single quote among them is not part of a token. -/
theorem scanned_escape_le {outsideLimit doubleLimit singleLimit : Nat}
    (outside : scanned scale none text ≤ outsideLimit)
    (double : scanned scale (some '"') text ≤ doubleLimit)
    (single : scanned scale (some '\'') text ≤ singleLimit)
    (entering : singleLimit ≤ outsideLimit + scale.heavy)
    (leaving : outsideLimit ≤ singleLimit + scale.heavy) (inner : List Char) :
    scanned scale none (inner.flatMap escape ++ text) ≤ weight scale inner + outsideLimit ∧
      scanned scale (some '"') (inner.flatMap escape ++ text) ≤
        weight scale inner + doubleLimit ∧
      scanned scale (some '\'') (inner.flatMap escape ++ text) ≤
        weight scale inner + singleLimit := by
  induction inner with
  | nil => simp [outside, double, single]
  | cons c rest inductionHypothesis =>
      obtain ⟨restOutside, restDouble, restSingle⟩ := inductionHypothesis
      rw [List.flatMap_cons, weight_cons]
      by_cases special : c = '"' ∨ c = '\\'
      · rw [escape, if_pos special]
        simp only [List.cons_append, List.nil_append, scanned_escaped]
        omega
      · rw [escape, if_neg special]
        rw [not_or] at special
        have apostrophe := charWeight_apostrophe scale
        simp only [List.cons_append, List.nil_append, scanned_outside scale special.2,
          scanned_inside scale special.2, if_neg special.1]
        refine ⟨?_, by omega, ?_⟩
        · split
          · next isQuote =>
              rcases isQuote_iff.1 isQuote with same | same
              · exact absurd same special.1
              · subst same
                omega
          · split
            · omega
            · omega
        · split
          · next same =>
              subst same
              omega
          · omega

/-- A written text adds at most its own weight, and its double quotes inside single
ones. -/
theorem Bounded.written (fits : Fits scale gaps texts)
    (bounded : Bounded scale content gaps texts text) (inner : List Char) :
    Bounded scale (content + weight scale inner) gaps (texts + 1)
      (writeChars inner ++ text) := by
  cases quoted : needsQuotes inner with
  | false =>
      rw [writeChars, quoted]
      exact (bounded.append fits inner).moreTexts
  | true =>
      have grown : 2 * scale.quote * (texts + 1) =
          2 * scale.quote * texts + 2 * scale.quote := Nat.mul_succ _ _
      have doubleQuote := charWeight_quote scale
      obtain ⟨quote, heavy⟩ := fits
      obtain ⟨outside, double, single, _, _, _⟩ := bounded
      have source : writeChars inner ++ text =
          '"' :: (inner.flatMap escape ++ '"' :: text) := by
        rw [writeChars, quoted]
        simp
      have fromOutside : scanned scale none ('"' :: text) ≤ content + gaps := by
        rw [scanned_outside scale (by decide), if_pos (by decide)]
        exact double
      have fromDouble : scanned scale (some '"') ('"' :: text) ≤ content := by
        rw [scanned_inside scale (by decide), if_pos rfl]
        exact outside
      have fromSingle : scanned scale (some '\'') ('"' :: text) ≤
          scale.quote + (content + gaps + 2 * scale.quote * texts) := by
        rw [scanned_inside scale (by decide), if_neg (by decide), doubleQuote]
        omega
      -- The quotes around the text are read first: from outside they open, from inside
      -- double ones they close, and from inside single ones they are read themselves.
      obtain ⟨closed, opened, kept⟩ := scanned_escape_le fromOutside fromDouble fromSingle
        (by omega) (by omega) inner
      rw [source]
      refine ⟨?_, ?_, ?_, fun _ => ?_, fun _ => ?_, fun _ => ?_⟩
      · rw [scanned_outside scale (by decide), if_pos (by decide)]
        omega
      · rw [scanned_inside scale (by decide), if_pos rfl]
        omega
      · rw [scanned_inside scale (by decide), if_neg (by decide), doubleQuote]
        omega
      all_goals
        rw [scanned_escaped, doubleQuote]
        omega

/-! ## Lines -/

theorem Bounded.word (fits : Fits scale gaps (texts + 1))
    (bounded : Bounded scale content gaps texts text) (word : Word) :
    Bounded scale (weight scale word.chars + content) gaps (texts + 1)
      (word.source ++ text) := by
  obtain ⟨lead, written⟩ := word
  cases written with
  | none =>
      have longer := bounded.moreTexts.append fits lead
      simpa [Word.source, Word.chars, Nat.add_comm] using longer
  | some inner =>
      have grown : 2 * scale.quote * (texts + 1) =
          2 * scale.quote * texts + 2 * scale.quote := Nat.mul_succ _ _
      have fewer : Fits scale gaps texts := ⟨fits.quote, by have := fits.heavy; omega⟩
      have longer := (bounded.written fewer inner).append fits lead
      simpa [Word.source, Word.chars, Nat.add_comm, Nat.add_left_comm] using longer

theorem Fits.of_cons {word : Word} {rest : List Word}
    (fits : Fits scale (word :: rest).length (word :: rest).length) :
    Fits scale rest.length rest.length :=
  Fits.fewer fits

/-- A line is bounded by the weight of its words. -/
theorem bounded_line {words : List Word} (fits : Fits scale words.length words.length) :
    Bounded scale (lineWeight scale words) words.length words.length (line words) := by
  induction words with
  | nil => exact Bounded.nil
  | cons word rest inductionHypothesis =>
      have bounded := inductionHypothesis fits.of_cons
      rw [lineWeight_cons]
      by_cases last : rest = []
      · subst last
        have alone := Bounded.nil.moreGaps.word fits word
        rwa [List.append_nil] at alone
      · rw [line_cons word last]
        exact (bounded.gap fits.of_cons).word fits word

theorem scanned_bare {bare : List Char} (isBare : ∀ c ∈ bare, isBare c = true)
    (text : List Char) :
    scanned scale none (bare ++ text) = weight scale bare + scanned scale none text := by
  by_cases empty : bare = []
  · subst empty
    simp
  · rw [scanned, scan_rendering (rendering_of_bare empty isBare), tokensWeight_prepend]
    rfl

/-- A character that is not taken for itself is lost. -/
theorem Bounded.scanned_special_lt (fits : Fits scale gaps texts)
    (bounded : Bounded scale content gaps texts text) {c : Char}
    (special : isBare c = false) (behind : c = '\\' → text ≠ []) :
    scanned scale none (c :: text) < content + charWeight scale c := by
  obtain ⟨quote, heavy⟩ := fits
  obtain ⟨outside, double, single, escapedOutside, _, _⟩ := bounded
  have doubleQuote := charWeight_quote scale
  have apostrophe := charWeight_apostrophe scale
  have backslash := charWeight_backslash scale
  by_cases escape : c = '\\'
  · subst escape
    have less := escapedOutside (behind rfl)
    omega
  · rw [scanned_outside scale escape]
    split
    · next isQuote =>
        rcases isQuote_iff.1 isQuote with rfl | rfl
        · omega
        · omega
    · next notQuote =>
        have blank : isBlank c = true := by
          by_contra notBlank
          rw [Bool.not_eq_true] at notQuote notBlank
          rw [isBare_iff.2 ⟨notBlank, notQuote, escape⟩] at special
          cases special
        rw [if_pos blank, charWeight_blank scale blank]
        omega

theorem exists_special {lead : List Char} (illegible : ¬ ∀ c ∈ lead, isBare c = true) :
    ∃ bare c more, lead = bare ++ c :: more ∧ (∀ d ∈ bare, isBare d = true) ∧
      isBare c = false := by
  induction lead with
  | nil => exact absurd (by simp) illegible
  | cons d rest inductionHypothesis =>
      cases first : isBare d with
      | false => exact ⟨[], d, rest, rfl, by simp, first⟩
      | true =>
          obtain ⟨bare, c, more, shape, isBare, special⟩ := inductionHypothesis fun later =>
            illegible (List.forall_mem_cons.2 ⟨first, later⟩)
          exact ⟨d :: bare, c, more, by rw [shape, List.cons_append],
            List.forall_mem_cons.2 ⟨first, isBare⟩, special⟩

/-- A word with an illegible lead is scanned as something lighter, unless a backslash
at the very end is all that is wrong with it. -/
theorem Bounded.scanned_word_lt (fits : Fits scale gaps (texts + 1))
    (bounded : Bounded scale content gaps texts text) {word : Word}
    (illegible : ¬ ∀ c ∈ word.lead, isBare c = true)
    (behind : word.EndsEscaped → text ≠ []) :
    scanned scale none (word.source ++ text) < weight scale word.chars + content := by
  obtain ⟨lead, written⟩ := word
  obtain ⟨bare, c, more, shape, isBare, special⟩ := exists_special illegible
  change lead = bare ++ c :: more at shape
  subst shape
  have later := bounded.word fits ⟨more, written⟩
  have source : Word.source ⟨bare ++ c :: more, written⟩ ++ text =
      bare ++ c :: (Word.source ⟨more, written⟩ ++ text) := by
    simp [Word.source]
  have chars : weight scale (Word.chars ⟨bare ++ c :: more, written⟩) =
      weight scale bare + (charWeight scale c + weight scale (Word.chars ⟨more, written⟩)) := by
    simp [Word.chars]
  have some : c = '\\' → Word.source ⟨more, written⟩ ++ text ≠ [] := by
    rintro rfl empty
    rw [List.append_eq_nil_iff, Word.source, List.append_eq_nil_iff] at empty
    obtain ⟨⟨noMore, noText⟩, last⟩ := empty
    have noWritten : written = none := by
      cases written with
      | none => rfl
      | some inner =>
          obtain ⟨front, d, shape, _⟩ := last_writeChars inner
          rw [Option.map_some, Option.getD_some, shape] at noText
          simp at noText
    change more = [] at noMore
    subst noMore
    exact behind ⟨noWritten, bare, rfl, isBare⟩ last
  have less := later.scanned_special_lt fits special some
  rw [source, chars, scanned_bare isBare]
  omega

/-- A line that is not legible weighs less when it is scanned. -/
theorem scanned_lt_of_not_legible {words : List Word}
    (fits : Fits scale words.length words.length)
    (present : ∀ word ∈ words, word.text = none → word.lead ≠ []) (nonempty : words ≠ [])
    (illegible : ¬ LegibleLine words) :
    scanned scale none (line words) < lineWeight scale words := by
  induction words with
  | nil => exact absurd rfl nonempty
  | cons word rest inductionHypothesis =>
      have first := present word List.mem_cons_self
      rw [lineWeight_cons]
      by_cases last : rest = []
      · subst last
        have bad : ¬ ∀ c ∈ word.lead, isBare c = true := fun bare =>
          illegible (.last ⟨bare, first⟩)
        have less := Bounded.nil.moreGaps.scanned_word_lt fits bad
          fun ends => absurd (.escaped ends) illegible
        rw [List.append_nil] at less
        exact less
      · rw [line_cons word last]
        by_cases bare : ∀ c ∈ word.lead, isBare c = true
        · have legible : word.IsLegible := ⟨bare, first⟩
          have less := inductionHypothesis fits.of_cons
            (fun later member => present later (List.mem_cons_of_mem word member)) last
            fun later => illegible (.cons legible later)
          have blank : isBlank ' ' = true := by decide
          rw [scanned, scan_source legible, tokensWeight_prepend, scan_blank blank,
            tokensWeight_separate]
          exact Nat.add_lt_add_left less _
        · exact ((bounded_line fits.of_cons).gap fits.of_cons).scanned_word_lt fits bare
            fun _ => by simp

end ChatOps.Token
