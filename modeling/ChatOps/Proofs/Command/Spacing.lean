import ChatOps.Proofs.Command.Rendering

/-!
# Spaced words

A line spells a list of words if a rendering of each stands on it, in order and with blanks
between any two.  However the words are rendered, and whatever blanks stand between and around
them, the line is split into just these words.  In particular the texts that `write` makes of
words spell the words (`split_of_spells`).
-/

set_option autoImplicit false

namespace ChatOps.Token

/-- Whether there are only blanks, or nothing at all. -/
def Blanks (gap : List Char) : Prop := ∀ c ∈ gap, Text.isBlank c = true

instance (gap : List Char) : Decidable (Blanks gap) :=
  List.decidableBAll _ gap

/-- The lines that spell words, from the first word on. -/
inductive Spells : List (List Char) → List Char → Prop where
  | nothing : Spells [] []
  | last {source word : List Char} (rendering : Rendering source word) :
      Spells [word] source
  | cons {source word gap line : List Char} {words : List (List Char)}
      (rendering : Rendering source word) (blanks : Blanks gap) (apart : gap ≠ [])
      (rest : Spells words line) : Spells (word :: words) (source ++ (gap ++ line))

theorem tokens_separate (scan : Scan) : scan.separate.tokens = scan.tokens := rfl

/-- Blanks end the current token, however many there are. -/
theorem scan_blanks {gap : List Char} (blanks : Blanks gap) (apart : gap ≠ [])
    (rest : List Char) : scan none (gap ++ rest) = (scan none rest).separate := by
  induction gap with
  | nil => exact absurd rfl apart
  | cons c others inductionHypothesis =>
      obtain ⟨blank, othersBlank⟩ := List.forall_mem_cons.1 blanks
      rw [List.cons_append, scan_blank blank]
      by_cases single : others = []
      · rw [single, List.nil_append]
      · rw [inductionHypothesis othersBlank single]
        rfl

theorem tokens_blanks {gap : List Char} (blanks : Blanks gap) (rest : List Char) :
    (scan none (gap ++ rest)).tokens = (scan none rest).tokens := by
  by_cases nothing : gap = []
  · rw [nothing, List.nil_append]
  · rw [scan_blanks blanks nothing, tokens_separate]

theorem scan_trailing {gap : List Char} (blanks : Blanks gap) :
    scan none gap = .finished := by
  by_cases nothing : gap = []
  · rw [nothing, scan]
  · have separated := scan_blanks blanks nothing []
    rw [List.append_nil, scan] at separated
    exact separated

theorem tokens_spelled {words : List (List Char)} {line trailing : List Char}
    (spells : Spells words line) (blanks : Blanks trailing) :
    (scan none (line ++ trailing)).tokens = words := by
  induction spells with
  | nothing =>
      rw [List.nil_append, scan_trailing blanks]
      rfl
  | @last source word rendering =>
      rw [scan_rendering rendering, scan_trailing blanks]
      exact Scan.tokens_finished_prepend word
  | cons rendering gapBlanks apart rest inductionHypothesis =>
      rw [List.append_assoc, List.append_assoc, scan_rendering rendering,
        scan_blanks gapBlanks apart, Scan.tokens_separate_prepend, inductionHypothesis]

theorem spells_written (texts : List (List Char)) :
    Spells texts (joinChars (texts.map writeChars)) := by
  induction texts with
  | nil => exact .nothing
  | cons text rest inductionHypothesis =>
      by_cases last : rest = []
      · rw [last]
        exact .last (rendering_writeChars text)
      · have more : rest.map writeChars ≠ [] := by simpa using last
        have space : Blanks [' '] := by decide
        rw [List.map_cons, joinChars_cons _ more]
        exact .cons (rendering_writeChars text) space (List.cons_ne_nil _ _) inductionHypothesis

theorem toList_join_write (words : List String) :
    (Text.join " " (words.map write)).toList =
      joinChars ((words.map String.toList).map writeChars) := by
  rw [toList_join, List.map_map, List.map_map]
  congr 1
  apply List.map_congr_left
  intro word _
  exact String.toList_ofList

theorem map_ofList_toList (words : List String) :
    (words.map String.toList).map String.ofList = words := by
  rw [List.map_map]
  exact List.map_id'' (fun word => String.ofList_toList) words

/-- A line is split into the words that it spells, and texts that are written as tokens spell
what they were written for. -/
theorem split_of_spells :
    (∀ (words : List (List Char)) (leading line trailing : List Char),
      Blanks leading → Spells words line → Blanks trailing →
        split (String.ofList (leading ++ (line ++ trailing))) = words.map String.ofList) ∧
      (∀ word : String, Rendering (write word).toList word.toList) ∧
      ∀ words : List String, split (Text.join " " (words.map write)) = words := by
  have splits (words : List (List Char)) (leading line trailing : List Char)
      (before : Blanks leading) (spells : Spells words line) (after : Blanks trailing) :
      split (String.ofList (leading ++ (line ++ trailing))) = words.map String.ofList := by
    rw [split, String.toList_ofList, tokens_blanks before, tokens_spelled spells after]
  refine ⟨splits, ?_, ?_⟩
  · intro word
    rw [write, String.toList_ofList]
    exact rendering_writeChars word.toList
  · intro words
    have spells := spells_written (words.map String.toList)
    rw [← toList_join_write] at spells
    have noBlanks : Blanks [] := List.forall_mem_nil _
    have joined := splits _ [] _ [] noBlanks spells noBlanks
    rw [List.nil_append, List.append_nil, String.ofList_toList, map_ofList_toList] at joined
    exact joined

/-- A tab, then a word of four pieces, a line break and a no-break space, an empty word, a
space, and a word that begins with an escaped quote. -/
theorem split_of_spells_pieces :
    let first := ['a'] ++ (['"', '\\', '"', ' ', '"'] ++ (['\'', '\\', '\'', '"', '\''] ++
      ['\\', ' ']))
    let second := ['\'', '\'']
    let third := ['\\', '"'] ++ ['=']
    let line := first ++ (['\n', '\u00a0'] ++ (second ++ ([' '] ++ third)))
    Blanks ['\t'] ∧ Spells [['a', '"', ' ', '\'', '"', ' '], [], ['"', '=']] line ∧ Blanks [] ∧
      split (String.ofList (['\t'] ++ (line ++ []))) = ["a\" '\" ", "", "\"="] := by
  intro first second third line
  have firstWord : Rendering first ['a', '"', ' ', '\'', '"', ' '] := by
    have double : Run '"' ['\\', '"', ' '] ['"', ' '] :=
      .escaped '"' (.plain (by decide) (by decide) .empty)
    have single : Run '\'' ['\\', '\'', '"'] ['\'', '"'] :=
      .escaped '\'' (.plain (by decide) (by decide) .empty)
    exact .cons (.bare (by decide)) (.cons (.quoted (by decide) double)
      (.cons (.quoted (by decide) single) (.single (.escaped ' '))))
  have secondWord : Rendering second [] := .single (.quoted (by decide) .empty)
  have thirdWord : Rendering third ['"', '='] :=
    .cons (.escaped '"') (.single (.bare (by decide)))
  have tab : Blanks ['\t'] := by decide
  have lineBreak : Blanks ['\n', '\u00a0'] := by decide
  have space : Blanks [' '] := by decide
  have nothing : Blanks [] := by decide
  have spells : Spells [['a', '"', ' ', '\'', '"', ' '], [], ['"', '=']] line :=
    .cons firstWord lineBreak (by decide)
      (.cons secondWord space (by decide) (.last thirdWord))
  exact ⟨tab, spells, nothing, split_of_spells.1 _ _ _ _ tab spells nothing⟩

end ChatOps.Token
