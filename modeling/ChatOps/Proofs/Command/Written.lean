import ChatOps.Proofs.Command.Addressed
import ChatOps.Proofs.Command.Line
import ChatOps.Proofs.Command.Shape
import ChatOps.Proofs.SortedMap

/-!
# Written commands

The text of a command as a line of words, and what is read behind its head.  If each
argument looks positional and each key looks like one, then the words are read as
the arguments, flags and options that they were written for, with every value
reread (`ofTokens_tail`).
-/

set_option autoImplicit false

namespace ChatOps

open ChatOps.Token

/-! ## Words -/

/-- A value that is written and read again. -/
def reread (value : Json) : Json := inferValue (Output.plainText value)

/-- A key with its value read again. -/
def rereadEntry (entry : String × Json) : String × Json := (entry.1, reread entry.2)

def argWord (value : Json) : Word := ⟨[], some (Output.plainText value).toList⟩

def flagWord (flag : String × Json) : Word :=
  match flag.2 with
  | .bool true => ⟨'-' :: '-' :: flag.1.toList, none⟩
  | value =>
      ⟨'-' :: '-' :: (flag.1.toList ++ ['=']), some (Output.plainText value).toList⟩

def optionWord (option : String × Json) : Word :=
  ⟨option.1.toList ++ ['='], some (Output.plainText option.2).toList⟩

theorem flagWord_cases (key : String) (value : Json) :
    (value = .bool true ∧ flagWord (key, value) = ⟨'-' :: '-' :: key.toList, none⟩) ∨
      (value ≠ .bool true ∧ flagWord (key, value) =
        ⟨'-' :: '-' :: (key.toList ++ ['=']), some (Output.plainText value).toList⟩) := by
  rw [flagWord]
  split
  · next same => exact .inl ⟨same, rfl⟩
  · next different => exact .inr ⟨different, rfl⟩

theorem reread_true : reread (.bool true) = .bool true := by
  have spelt : Output.plainText (.bool true) = "true" := rfl
  rw [reread, spelt, inferValue]
  exact if_pos rfl

namespace Token.Word

/-- The token that the word is read as. -/
def token (word : Word) : String := String.ofList word.chars

end Token.Word

theorem token_argWord (value : Json) : (argWord value).token = Output.plainText value := by
  simp [argWord, Word.token, Word.chars]

theorem item?_flagWord {flag : String × Json} (some : flag.1 ≠ "")
    (equals : '=' ∉ flag.1.toList) :
    (Shape.ofToken (flagWord flag).token).item? (flagWord flag).token =
      Option.some (.flag flag.1 (reread flag.2)) := by
  obtain ⟨key, value⟩ := flag
  have keyChars : key.toList ≠ [] := fun empty => some (String.toList_eq_nil_iff.1 empty)
  rcases flagWord_cases key value with ⟨same, word⟩ | ⟨_, word⟩
  · have shape : Shape.ofToken (flagWord (key, value)).token = .long key none := by
      have long := longShape_bare keyChars equals
      rw [String.ofList_toList] at long
      simpa [Shape.ofToken, Word.token, Word.chars, word, Shape.ofChars] using long
    rw [shape, same]
    simp only [Shape.item?, reread_true]
    rfl
  · have shape : Shape.ofToken (flagWord (key, value)).token =
        .long key (Output.plainText value) := by
      have long := longShape_valued keyChars equals (Output.plainText value).toList
      rw [String.ofList_toList, String.ofList_toList] at long
      simpa [Shape.ofToken, Word.token, Word.chars, word, Shape.ofChars] using long
    rw [shape]
    rfl

theorem item?_optionWord {option : String × Json}
    (identifier : isIdentifier option.1.toList = true)
    (plain : isDashed option.1 = false) :
    (Shape.ofToken (optionWord option).token).item? (optionWord option).token =
      some (.option option.1 (reread option.2)) := by
  obtain ⟨key, value⟩ := option
  have start : (key.toList ++ '=' :: (Output.plainText value).toList).head? ≠ some '-' := by
    rw [isDashed, beq_eq_false_iff_ne] at plain
    cases shape : key.toList with
    | nil => simp
    | cons c rest => simpa [shape] using plain
  have shape : Shape.ofToken (optionWord (key, value)).token =
      .option key (Output.plainText value) := by
    have read := plainShape_option identifier (Output.plainText value).toList
    rw [String.ofList_toList, String.ofList_toList] at read
    rw [← read, ← Shape.ofChars_plain start]
    simp [Shape.ofToken, Word.token, Word.chars, optionWord]
  rw [shape]
  rfl

namespace Command

/-! ## Commands as lines -/

/-- The head of a command as a word. -/
def headWord (command : Command) : Word :=
  ⟨command.head.toList, none⟩

/-- The words behind the head. -/
def tail (command : Command) : List Word :=
  command.args.map argWord ++
    (command.flags.entries.map flagWord ++ command.options.entries.map optionWord)

/-- The words of a command. -/
def words (command : Command) : List Word := command.headWord :: command.tail

theorem toList_valueText (value : Json) :
    (valueText value).toList = writeChars (Output.plainText value).toList := by
  rw [valueText, Token.write, String.toList_ofList]

theorem toList_flagText (flag : String × Json) :
    (flagText flag.1 flag.2).toList = (flagWord flag).source := by
  obtain ⟨key, value⟩ := flag
  simp only [flagText, flagWord]
  split <;> simp [Word.source, toList_valueText]

theorem toList_optionText (option : String × Json) :
    (optionText option.1 option.2).toList = (optionWord option).source := by
  simp [optionText, optionWord, Word.source, toList_valueText]

/-- The text of a command is the line of its words. -/
theorem toList_text (command : Command) : command.text.toList = line command.words := by
  rw [text, toList_join, line, tokenTexts, words, tail]
  congr 1
  simp only [List.map_cons, List.map_append, List.map_map, List.append_assoc]
  congr 1
  · simp [headWord, Word.source, head]
  · congr 1
    · apply List.map_congr_left
      intro value _
      simp [argWord, Word.source, toList_valueText]
    · congr 1
      · exact List.map_congr_left fun flag _ => toList_flagText flag
      · exact List.map_congr_left fun option _ => toList_optionText option

/-! ## Splitting and trimming -/

/-- A written head begins with a sign, and behind an at sign stands a colon. -/
theorem sign_head {command : Command} (addressed : Addressed command) :
    (∃ rest, command.head.toList = '/' :: rest) ∨
      ∃ rest, command.head.toList = '@' :: rest ∧ ':' ∈ rest := by
  have written (address : Address) (ordinary : address.isCore = false)
      (nonempty : command.sub ≠ some "") (here : command.address = address) :
      ∃ rest, command.head.toList = '@' :: rest ∧ ':' ∈ rest := by
    refine ⟨address.display.toList ++ ':' :: segmentChars command.name command.sub, ?_, ?_⟩
    · rw [head, here, toList_headText ordinary _ nonempty]
    · simp
  cases addressed with
  | domain place sigil kind domain agent segment sub =>
      exact .inr (written (.domain place) rfl sub (by simp [address, domain]))
  | agent sigil kind domain isAgent segment sub =>
      by_cases core : command.agent = coreAgent
      · left
        have here : command.address = .agent coreAgent := by
          simp [address, domain, kind, core]
        rw [head, here]
        exact slash_headText_core command.name command.sub
      · right
        refine written (.agent command.agent) ?_ sub (by simp [address, domain, kind])
        simpa [Address.isCore] using core
  | system sigil kind domain agent name sub =>
      left
      have here : command.address = .core := by simp [address, domain, kind]
      rw [head, here, sub, headText_core]
      exact slash_slashed command.name

theorem line_words (command : Command) :
    ∃ rest, line command.words = command.head.toList ++ rest := by
  by_cases alone : command.tail = []
  · refine ⟨[], ?_⟩
    rw [words, alone, line_singleton]
    simp [headWord, Word.source]
  · refine ⟨' ' :: line command.tail, ?_⟩
    rw [words, line_cons _ alone]
    simp [headWord, Word.source]

theorem head_text {command : Command} (addressed : Addressed command) :
    ∀ c ∈ (line command.words).head?, Text.isBlank c = false := by
  obtain ⟨rest, whole⟩ := line_words command
  intro c first
  rcases sign_head addressed with ⟨bare, shape⟩ | ⟨bare, shape, _⟩
  · rw [whole, shape] at first
    cases first
    decide
  · rw [whole, shape] at first
    cases first
    decide

theorem isCommand_text {command : Command} (addressed : Addressed command) :
    isCommand command.text = true := by
  rw [isCommand, toList_text, Text.trimStart_of_head (head_text addressed)]
  obtain ⟨rest, whole⟩ := line_words command
  rcases sign_head addressed with ⟨bare, shape⟩ | ⟨bare, shape, colon⟩
  · rw [whole, shape]
    rfl
  · rw [whole, shape]
    simpa using .inl colon

/-- A word without a text begins with a sign, so trimming leaves something of it. -/
theorem begun_words {command : Command} (addressed : Addressed command) :
    ∀ word ∈ command.words, word.text = none → ∃ c ∈ word.lead, Text.isBlank c = false := by
  intro word member noText
  rcases List.mem_cons.1 member with same | behind
  · subst same
    rcases sign_head addressed with ⟨bare, shape⟩ | ⟨bare, shape, _⟩
    · exact ⟨'/', by simp [headWord, shape], by decide⟩
    · exact ⟨'@', by simp [headWord, shape], by decide⟩
  · rw [tail, List.mem_append, List.mem_append, List.mem_map, List.mem_map,
      List.mem_map] at behind
    rcases behind with ⟨value, _, same⟩ | ⟨⟨key, value⟩, _, same⟩ | ⟨option, _, same⟩
    · subst same
      cases noText
    · subst same
      rcases flagWord_cases key value with ⟨_, shape⟩ | ⟨_, shape⟩
      · exact ⟨'-', by simp [shape], by decide⟩
      · rw [shape] at noText
        cases noText
    · subst same
      cases noText

/-- Trimming the text of a command trims its last word. -/
theorem trim_text {command : Command} (addressed : Addressed command) :
    Text.trim command.text.toList = line (cutLast command.words) := by
  rw [Text.trim, toList_text, Text.trimStart_of_head (head_text addressed)]
  exact trimEnd_line (begun_words addressed) [] (by simp [words])

/-- A legible text is split into the words of its command. -/
theorem split_text {command : Command} (addressed : Addressed command)
    (legible : LegibleLine command.words) :
    Token.split (Text.trimmed command.text) = command.words.map Word.token := by
  have trimmed := trim_text addressed
  rw [cutLast_of_legible legible] at trimmed
  rw [Token.split, Text.trimmed, trimmed, String.toList_ofList, tokens_line legible,
    List.map_map]
  rfl

/-! ## Arguments -/

/-- What the arguments of a command have to look like to be read as such. -/
structure Sorted (command : Command) : Prop where
  args : ∀ value ∈ command.args, Shape.ofToken (Output.plainText value) = .positional
  flags : ∀ flag ∈ command.flags.entries, flag.1 ≠ "" ∧ '=' ∉ flag.1.toList
  options : ∀ option ∈ command.options.entries,
    isIdentifier option.1.toList = true ∧ isDashed option.1 = false

/-- The arguments of a command with every value read again. -/
def rereadArguments (command : Command) : Arguments :=
  ⟨command.args.map reread, .ofList (command.flags.entries.map rereadEntry),
    .ofList (command.options.entries.map rereadEntry)⟩

/-- The words behind the head are read as what they were written for. -/
theorem ofTokens_tail {command : Command} (sorted : command.Sorted) :
    Arguments.ofTokens (command.tail.map Word.token) = command.rereadArguments := by
  have argItems : ∀ value ∈ command.args,
      (Shape.ofToken (argWord value).token).item? (argWord value).token =
        some (.positional (reread value)) := by
    intro value member
    rw [token_argWord, sorted.args value member]
    rfl
  have flagItems := fun flag member =>
    item?_flagWord (sorted.flags flag member).1 (sorted.flags flag member).2
  have optionItems := fun option member =>
    item?_optionWord (sorted.options option member).1 (sorted.options option member).2
  have optionsRead := itemsOf_map_append (fun option => (optionWord option).token)
    (fun option => .option option.1 (reread option.2)) optionItems []
  have flagsRead := itemsOf_map_append (fun flag => (flagWord flag).token)
    (fun flag => .flag flag.1 (reread flag.2)) flagItems
  have argsRead := itemsOf_map_append (fun value => (argWord value).token)
    (fun value => .positional (reread value)) argItems
  have placed := Arguments.ofItems_sorted (command.args.map reread)
    (command.flags.entries.map rereadEntry) (command.options.entries.map rereadEntry)
  rw [rereadArguments, ← placed, Arguments.ofTokens, tail]
  simp only [List.map_append, List.map_map]
  rw [List.append_nil] at optionsRead
  simp only [Function.comp_def, rereadEntry]
  rw [argsRead, flagsRead, optionsRead]
  simp [itemsOf]

end Command

end ChatOps
