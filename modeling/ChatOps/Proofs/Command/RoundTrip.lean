import ChatOps.Proofs.Command.Written

/-!
# Round trips of written commands

A command makes a round trip if its text is read as the same command again.  Where
the line is legible and the arguments look like what they are, this is a matter of
the head and of every single value (`roundTrips_iff_kept`).  Commands of plain parts
make it.
-/

set_option autoImplicit false

namespace ChatOps

open ChatOps.Token

/-- Whether a value that is written and read again is equal to itself. -/
def IsKept (value : Json) : Prop := (reread value).same value = true

theorem sameItems_reread {values : List Json} :
    Json.sameItems (values.map reread) values = true ↔ ∀ value ∈ values, IsKept value := by
  induction values with
  | nil => simp [Json.sameItems]
  | cons value rest inductionHypothesis =>
      rw [List.map_cons, Json.sameItems, Bool.and_eq_true, inductionHypothesis,
        List.forall_mem_cons]
      rfl

theorem sameMembers_reread {members : List (String × Json)} :
    Json.sameMembers (members.map rereadEntry) members = true ↔
      ∀ member ∈ members, IsKept member.2 := by
  induction members with
  | nil => simp [Json.sameMembers]
  | cons member rest inductionHypothesis =>
      rw [List.map_cons, rereadEntry, Json.sameMembers, Bool.and_eq_true,
        inductionHypothesis, List.forall_mem_cons, beq_self_eq_true, Bool.true_and]
      rfl

theorem sameMap_reread {map : JsonMap} :
    Json.sameMap (.ofList (map.entries.map rereadEntry)) map = true ↔
      ∀ entry ∈ map.entries, IsKept entry.2 := by
  have sorted : (map.entries.map rereadEntry).Pairwise
      fun left right => compare left.1 right.1 = .lt :=
    List.Pairwise.map _ (fun _ _ before => before) map.sorted
  rw [Json.sameMap, SortedMap.entries_ofList sorted, sameMembers_reread]

namespace Command

/-- Whether the text of a command is read as the same command again. -/
def RoundTrips (command : Command) : Prop :=
  ∃ again, parse command.text = .ok again ∧ again.sameMeaning command = true

instance (command : Command) : Decidable command.RoundTrips :=
  match reading : parse command.text with
  | .ok again =>
      decidable_of_iff (again.sameMeaning command = true) (by simp [RoundTrips, reading])
  | .error _ => .isFalse (by simp [RoundTrips, reading])

/-- Whether every value of a command is the same when it is written and read. -/
structure ValuesKept (command : Command) : Prop where
  args : ∀ value ∈ command.args, IsKept value
  flags : ∀ flag ∈ command.flags.entries, IsKept flag.2
  options : ∀ option ∈ command.options.entries, IsKept option.2

theorem sameMeaning_reread_iff {command read : Command} {raw : String} :
    (read.withArguments command.rereadArguments raw).sameMeaning command = true ↔
      SameHead read command ∧ command.ValuesKept := by
  rw [sameMeaning_iff]
  simp only [withArguments, rereadArguments, sameItems_reread, sameMap_reread]
  constructor
  · rintro ⟨⟨sigil, kind, domain, agent, name, sub⟩, args, flags, options⟩
    exact ⟨⟨sigil, kind, domain, agent, name, sub⟩, args, flags, options⟩
  · rintro ⟨⟨sigil, kind, domain, agent, name, sub⟩, args, flags, options⟩
    exact ⟨⟨sigil, kind, domain, agent, name, sub⟩, args, flags, options⟩

theorem token_headWord (command : Command) : command.headWord.token = command.head := by
  simp [headWord, Word.token, Word.chars]

/-- A legible text is read head first, and then every value once more. -/
theorem parse_text_iff {command again : Command} (addressed : Addressed command)
    (legible : LegibleLine command.words) (sorted : command.Sorted) :
    parse command.text = .ok again ↔
      ∃ read, ofHead command.head = .ok read ∧
        again =
          read.withArguments command.rereadArguments (Text.trimmed command.text) := by
  rw [parse_eq_ok_iff, split_text addressed legible, words, List.map_cons,
    token_headWord, ← ofTokens_tail sorted]
  constructor
  · rintro ⟨_, first, rest, read, tokens, reading, equal⟩
    cases tokens
    exact ⟨read, reading, equal⟩
  · rintro ⟨read, reading, equal⟩
    exact ⟨isCommand_text addressed, _, _, read, rfl, reading, equal⟩

/-- A command on a legible line makes a round trip if its head and its values do. -/
theorem roundTrips_iff_kept {command : Command} (addressed : Addressed command)
    (legible : LegibleLine command.words) (sorted : command.Sorted) :
    command.RoundTrips ↔ HeadKept command ∧ command.ValuesKept := by
  rw [← ofHead_head_iff addressed]
  constructor
  · rintro ⟨again, reading, same⟩
    obtain ⟨read, headRead, equal⟩ := (parse_text_iff addressed legible sorted).1 reading
    rw [equal, sameMeaning_reread_iff] at same
    exact ⟨⟨read, headRead, same.1⟩, same.2⟩
  · rintro ⟨⟨read, headRead, sameHead⟩, values⟩
    exact ⟨_, (parse_text_iff addressed legible sorted).2 ⟨read, headRead, rfl⟩,
      sameMeaning_reread_iff.2 ⟨sameHead, values⟩⟩

/-! ## Commands of plain parts -/

/-- A text that is written as it is: not empty, and without white space, quotes and
backslashes. -/
structure IsPlain (text : String) : Prop where
  nonempty : text ≠ ""
  bare : ∀ c ∈ text.toList, isBare c = true

theorem IsPlain.of_all {text : String} (nonempty : text ≠ "")
    (bare : text.toList.all isBare = true) : IsPlain text :=
  ⟨nonempty, List.all_eq_true.1 bare⟩

/-- A head of plain parts that is addressed as its command says. -/
inductive PlainHead (command : Command) : Prop where
  | domain (place : Domain) (sigil : command.sigil = .atSign)
      (kind : command.kind = .domain) (domain : command.domain = some place)
      (agent : command.agent = place.name) (name : IsPlain command.name)
      (colon : ':' ∉ command.name.toList) (sub : ∀ sub ∈ command.sub, IsPlain sub)
  | agent (sigil : command.sigil = .atSign) (kind : command.kind = .agent)
      (domain : command.domain = none) (agent : IsPlain command.agent)
      (agentColon : ':' ∉ command.agent.toList)
      (lower : Text.asciiLower command.agent = command.agent)
      (noDomain : ∀ place : Domain, command.agent ≠ place.name)
      (noCore : command.agent ≠ coreAgent) (name : IsPlain command.name)
      (colon : ':' ∉ command.name.toList) (sub : ∀ sub ∈ command.sub, IsPlain sub)
  | system (sigil : command.sigil = .slash) (kind : command.kind = .system)
      (domain : command.domain = none) (sub : command.sub = none)
      (name : IsPlain command.name) (slash : command.name.toList.head? ≠ some '/')
      (agent : command.agent = slashAgent command.name.toList)

/-- A command that can be written: its parts are plain, every value is the same when
it is written and read, and no positional argument looks like a flag or an option. -/
structure Representable (command : Command) : Prop where
  head : PlainHead command
  flagKeys : ∀ flag ∈ command.flags.entries, IsPlain flag.1 ∧ '=' ∉ flag.1.toList
  optionKeys : ∀ option ∈ command.options.entries,
    isIdentifier option.1.toList = true ∧ option.1.toList.head? ≠ some '-'
  values : command.ValuesKept
  positional : ∀ value ∈ command.args,
    Shape.ofToken (Output.plainText value) = .positional

theorem IsPlain.trimmed_eq {text : String} (plain : IsPlain text) :
    Text.trimmed text = text :=
  Text.trimmed_of_solid fun c member => (isBare_iff.1 (plain.bare c member)).1

theorem sub_ne_empty {sub : Option String} (plain : ∀ part ∈ sub, IsPlain part) :
    sub ≠ some "" :=
  fun same => (plain "" same).nonempty rfl

theorem PlainHead.addressed {command : Command} (plain : PlainHead command) :
    Addressed command := by
  cases plain with
  | domain place sigil kind domain agent name colon sub =>
      exact .domain place sigil kind domain agent ⟨name.nonempty, colon⟩ (sub_ne_empty sub)
  | agent sigil kind domain agent agentColon lower noDomain noCore name colon sub =>
      have isAgent : IsAgent command.agent :=
        ⟨agent.nonempty, agent.trimmed_eq, lower, agentColon, noDomain⟩
      exact .agent sigil kind domain isAgent ⟨name.nonempty, colon⟩ (sub_ne_empty sub)
  | system sigil kind domain sub name slash agent =>
      exact .system sigil kind domain agent name.nonempty sub

theorem PlainHead.kept {command : Command} (plain : PlainHead command) :
    HeadKept command := by
  cases plain with
  | domain place sigil kind domain agent name colon sub =>
      exact ⟨by simp [kind], by simp [kind]⟩
  | agent sigil kind domain agent agentColon lower noDomain noCore name colon sub =>
      exact ⟨fun _ => noCore, by simp [kind]⟩
  | system sigil kind domain sub name slash agent =>
      refine ⟨by simp [kind], fun _ => ?_⟩
      simpa [Address.isSlashed] using slash

theorem bare_segmentChars {name : String} (namePlain : IsPlain name) {sub : Option String}
    (plain : ∀ part ∈ sub, IsPlain part) : ∀ c ∈ segmentChars name sub, isBare c = true := by
  have colon : isBare ':' = true := by decide
  cases sub with
  | none => exact namePlain.bare
  | some part =>
      have partBare := (plain part rfl).bare
      intro c member
      rw [segmentChars, List.mem_append, List.mem_cons] at member
      rcases member with inName | same | inPart
      · exact namePlain.bare c inName
      · rw [same, colon]
      · exact partBare c inPart

theorem bare_headText {address : Address} (ordinary : address.isCore = false)
    (display : ∀ c ∈ address.display.toList, isBare c = true) {name : String}
    (namePlain : IsPlain name) {sub : Option String}
    (plain : ∀ part ∈ sub, IsPlain part) :
    ∀ c ∈ (headText address name sub).toList, isBare c = true := by
  have sign : isBare '@' = true := by decide
  have colon : isBare ':' = true := by decide
  intro c member
  rw [toList_headText ordinary name (sub_ne_empty plain), List.mem_cons, List.mem_append,
    List.mem_cons] at member
  rcases member with same | inDisplay | same | inSegment
  · rw [same, sign]
  · exact display c inDisplay
  · rw [same, colon]
  · exact bare_segmentChars namePlain plain c inSegment

theorem PlainHead.bare {command : Command} (plain : PlainHead command) :
    ∀ c ∈ command.head.toList, isBare c = true := by
  cases plain with
  | domain place sigil kind domain agent name colon sub =>
      have here : command.address = .domain place := by simp [address, domain]
      rw [Command.head, here]
      refine bare_headText rfl ?_ name sub
      exact List.all_eq_true.1 (by cases place <;> decide)
  | agent sigil kind domain agent agentColon lower noDomain noCore name colon sub =>
      have here : command.address = .agent command.agent := by simp [address, domain, kind]
      have ordinary : (Address.agent command.agent).isCore = false := by
        simpa [Address.isCore] using noCore
      rw [Command.head, here]
      exact bare_headText ordinary agent.bare name sub
  | system sigil kind domain sub name slash agent =>
      have here : command.address = .core := by simp [address, domain, kind]
      have unslashed : Address.isSlashed command.name = false := by
        simpa [Address.isSlashed] using slash
      rw [Command.head, here, sub, headText_core, Address.slashed, unslashed]
      intro c member
      have sign : isBare '/' = true := by decide
      rcases List.mem_cons.1 (by simpa using member) with same | inName
      · rw [same, sign]
      · exact name.bare c inName

theorem isIdentifierChar_range {c : Char} (identifier : isIdentifierChar c = true) :
    45 ≤ c.toNat ∧ c.toNat ≤ 122 := by
  have written : (c.isUpper || c.isLower || c.isDigit || c == '-' || c == '_') = true :=
    identifier
  simp only [Bool.or_eq_true, beq_iff_eq] at written
  rcases written with (((capital | small) | digit) | rfl) | rfl
  · have bounds : c.val ≥ 'A'.val ∧ c.val ≤ 'Z'.val := of_decide_eq_true capital
    exact ⟨le_trans (by decide) (UInt32.le_iff_toNat_le.1 bounds.1),
      le_trans (UInt32.le_iff_toNat_le.1 bounds.2) (by decide)⟩
  · have bounds := (Bool.and_eq_true _ _).mp small
    exact ⟨le_trans (by decide) (UInt32.le_iff_toNat_le.1 (of_decide_eq_true bounds.1)),
      le_trans (UInt32.le_iff_toNat_le.1 (of_decide_eq_true bounds.2)) (by decide)⟩
  · have bounds := (Bool.and_eq_true _ _).mp digit
    exact ⟨le_trans (by decide) (UInt32.le_iff_toNat_le.1 (of_decide_eq_true bounds.1)),
      le_trans (UInt32.le_iff_toNat_le.1 (of_decide_eq_true bounds.2)) (by decide)⟩
  · decide
  · decide

theorem isBare_of_isIdentifierChar {c : Char} (identifier : isIdentifierChar c = true) :
    isBare c = true := by
  obtain ⟨low, high⟩ := isIdentifierChar_range identifier
  rw [isBare_iff]
  refine ⟨?_, ?_, ?_⟩
  · rw [Bool.eq_false_iff]
    intro blank
    have outside := Text.isBlank_range blank
    omega
  · rw [Bool.eq_false_iff]
    intro quote
    simp only [isQuote, Bool.or_eq_true, beq_iff_eq] at quote
    rcases quote with rfl | rfl
    · revert low
      decide
    · revert low
      decide
  · rintro rfl
    revert identifier
    decide

theorem legibleLine_of_forall {words : List Word} (nonempty : words ≠ [])
    (legible : ∀ word ∈ words, word.IsLegible) : LegibleLine words := by
  induction words with
  | nil => exact absurd rfl nonempty
  | cons word rest inductionHypothesis =>
      have first := legible word List.mem_cons_self
      by_cases last : rest = []
      · subst last
        exact .last first
      · exact .cons first (inductionHypothesis last
          fun later member => legible later (List.mem_cons_of_mem word member))

theorem isLegible_argWord (value : Json) : (argWord value).IsLegible :=
  ⟨by simp [argWord], by simp [argWord]⟩

theorem isLegible_flagWord {flag : String × Json} (plain : IsPlain flag.1) :
    (flagWord flag).IsLegible := by
  have dash : isBare '-' = true := by decide
  have equals : isBare '=' = true := by decide
  obtain ⟨key, value⟩ := flag
  rcases flagWord_cases key value with ⟨_, shape⟩ | ⟨_, shape⟩
  · rw [shape]
    exact ⟨by simpa [dash] using plain.bare, by simp⟩
  · rw [shape]
    refine ⟨?_, by simp⟩
    intro c inLead
    simp only [List.mem_cons, List.mem_append, List.not_mem_nil, or_false] at inLead
    rcases inLead with rfl | rfl | inKey | rfl
    · exact dash
    · exact dash
    · exact plain.bare c inKey
    · exact equals

theorem Representable.legible {command : Command} (representable : command.Representable) :
    LegibleLine command.words := by
  have equals : isBare '=' = true := by decide
  apply legibleLine_of_forall (by simp [words])
  intro word member
  rw [words, tail, List.mem_cons, List.mem_append, List.mem_append, List.mem_map,
    List.mem_map, List.mem_map] at member
  rcases member with same | ⟨value, _, same⟩ | ⟨flag, inFlags, same⟩ |
    ⟨option, inOptions, same⟩
  · subst same
    refine ⟨representable.head.bare, fun _ => ?_⟩
    rcases sign_head representable.head.addressed with ⟨rest, shape⟩ | ⟨rest, shape, _⟩ <;>
      simp [headWord, shape]
  · subst same
    exact isLegible_argWord value
  · subst same
    exact isLegible_flagWord (representable.flagKeys flag inFlags).1
  · subst same
    have identifier := (representable.optionKeys option inOptions).1
    rw [isIdentifier, Bool.and_eq_true, List.all_eq_true] at identifier
    refine ⟨?_, by simp [optionWord]⟩
    intro c inLead
    simp only [optionWord, List.mem_append, List.mem_cons, List.not_mem_nil,
      or_false] at inLead
    rcases inLead with inKey | rfl
    · exact isBare_of_isIdentifierChar (identifier.2 c inKey)
    · exact equals

theorem Representable.sorted {command : Command} (representable : command.Representable) :
    command.Sorted where
  args := representable.positional
  flags := fun flag member =>
    ⟨(representable.flagKeys flag member).1.nonempty, (representable.flagKeys flag member).2⟩
  options := by
    intro option member
    obtain ⟨identifier, plain⟩ := representable.optionKeys option member
    exact ⟨identifier, by simpa [isDashed] using plain⟩

/-- Writing a representable command and reading its text gives the command back. -/
theorem roundTrips_of_representable {command : Command}
    (representable : command.Representable) : command.RoundTrips :=
  (roundTrips_iff_kept representable.head.addressed representable.legible
    representable.sorted).2 ⟨representable.head.kept, representable.values⟩

theorem roundTrips_commit :
    RoundTrips
      { forDomain .git "commit" with
        sub := some "all"
        args := [.string "first \"draft\"", .number (.negative 7), .array [.null]]
        flags := ⟨[("amend", .bool true), ("times", Json.ofNat 3)], by decide +kernel⟩
        options := ⟨[("branch", .string "--main")], by decide +kernel⟩ } :=
  roundTrips_of_representable
    { head := .domain .git rfl rfl rfl rfl (.of_all (by decide) (by decide)) (by decide)
        (by rintro sub ⟨⟩; exact .of_all (by decide) (by decide))
      flagKeys := by
        simp only [List.forall_mem_cons]
        exact ⟨⟨.of_all (by decide) (by decide), by decide⟩,
          ⟨.of_all (by decide) (by decide), by decide⟩, by simp⟩
      optionKeys := by
        simp only [List.forall_mem_cons]
        exact ⟨⟨by decide, by decide⟩, by simp⟩
      values := by
        refine ⟨?_, ?_, ?_⟩ <;> simp only [List.forall_mem_cons, IsKept]
        · exact ⟨by decide +kernel, by decide +kernel, by decide +kernel, by simp⟩
        · exact ⟨by decide +kernel, by decide +kernel, by simp⟩
        · exact ⟨by decide +kernel, by simp⟩
      positional := by
        simp only [List.forall_mem_cons]
        exact ⟨by decide +kernel, by decide +kernel, by decide +kernel, by simp⟩ }

end Command

end ChatOps
