import ChatOps.Session
import ChatOps.Proofs.Text.Trimming

/-!
# Generating in a session

A session finds the key of a pattern, and generates a command for that key rather than for
the pattern.  Where no issue key is remembered and there is no language model, this is the
command that the context alone gives, except for a pattern with one `@` too many: its key
still begins with an `@`, which selects no template, and is then taken for a pattern of
its own, which may select one (`generate_eq_command?_iff`).
-/

set_option autoImplicit false

namespace ChatOps

/-! ## Words -/

namespace Text

theorem isBlank_of_mem_words {text word : List Char} (member : word ∈ words text) :
    ∀ c ∈ word, isBlank c = false := by
  induction text generalizing word with
  | nil => cases member
  | cons c rest inductionHypothesis =>
      by_cases blank : isBlank c = true
      · rw [words.eq_def] at member
        dsimp only at member
        rw [if_pos blank] at member
        exact inductionHypothesis member
      · have single : ∀ d ∈ [c], isBlank d = false := by simpa using blank
        cases rest with
        | nil =>
            simp only [words, if_neg blank] at member
            rw [List.mem_singleton.1 member]
            exact single
        | cons next more =>
            rw [words.eq_def] at member
            dsimp only at member
            rw [if_neg blank] at member
            by_cases nextBlank : isBlank next = true
            · rw [if_pos nextBlank] at member
              obtain rfl | member := List.mem_cons.1 member
              · exact single
              · exact inductionHypothesis member
            · rw [if_neg nextBlank] at member
              cases following : words (next :: more) with
              | nil =>
                  rw [following] at member
                  rw [List.mem_singleton.1 member]
                  exact single
              | cons first others =>
                  rw [following] at member inductionHypothesis
                  obtain rfl | member := List.mem_cons.1 member
                  · intro d isHere
                    obtain rfl | isHere := List.mem_cons.1 isHere
                    · exact single d List.mem_cons_self
                    · exact inductionHypothesis List.mem_cons_self d isHere
                  · exact inductionHypothesis (List.mem_cons_of_mem _ member)

/-- A text without blanks is a single word. -/
theorem words_of_solid {text : List Char} (present : text ≠ [])
    (solid : ∀ c ∈ text, isBlank c = false) : words text = [text] := by
  induction text with
  | nil => exact absurd rfl present
  | cons c rest inductionHypothesis =>
      have notBlank := solid c List.mem_cons_self
      have solidRest : ∀ d ∈ rest, isBlank d = false := fun d member =>
        solid d (List.mem_cons_of_mem c member)
      cases rest with
      | nil => simp [words, notBlank]
      | cons next more =>
          have nextNotBlank := solidRest next List.mem_cons_self
          rw [words, inductionHypothesis (List.cons_ne_nil _ _) solidRest]
          simp [notBlank, nextNotBlank]

end Text

theorem toList_atSign_append (key : String) : ("@" ++ key).toList = ['@'] ++ key.toList := by
  rw [String.toList_append]
  rfl

/-! ## Keys of templates -/

namespace Template

variable {template : Template} {key : String}

theorem ofKey?_eq_some_iff : ofKey? key = some template ↔ template.key = key := by
  constructor
  · intro found
    simpa using List.find?_some found
  · rintro rfl
    cases template <;> decide +kernel

/-- No key begins with the sign that begins a command. -/
theorem ofKey?_atSign (key : String) : ofKey? ("@" ++ key) = none := by
  cases found : ofKey? ("@" ++ key) with
  | none => rfl
  | some template =>
      have begins : template.key.toList.head? = some '@' := by
        rw [ofKey?_eq_some_iff.1 found, String.toList_append]
        rfl
      cases template <;> exact absurd begins (by decide)

end Template

namespace Generation

open Text

/-! ## Keys of patterns -/

/-- A text without a leading `@`. -/
def withoutSign (text : List Char) : List Char := (afterStart? ['@'] text).getD text

theorem mem_of_mem_withoutSign {text : List Char} {c : Char} (member : c ∈ withoutSign text) :
    c ∈ text := by
  rw [withoutSign] at member
  cases signed : afterStart? ['@'] text with
  | none => rwa [signed] at member
  | some rest =>
      rw [signed] at member
      rw [afterStart?_eq_some_iff.1 signed]
      exact List.mem_cons_of_mem '@' member

/-- What a key is in lower case of: one word, or two with a colon between them. -/
theorem exists_patternKey (pattern : String) :
    ∃ text, (∀ c ∈ text, isBlank c = false) ∧
      patternKey pattern = asciiLower (String.ofList text) := by
  refine ⟨_, ?_, rfl⟩
  generalize (afterStart? ['@'] (trim pattern.toList)).getD (trim pattern.toList) = plain
  cases found : Text.words plain with
  | nil => simp
  | cons head rest =>
      have solidHead : ∀ c ∈ head, isBlank c = false :=
        isBlank_of_mem_words (by rw [found]; exact List.mem_cons_self)
      dsimp only
      by_cases whole : head.contains ':' = true
      · rw [if_pos whole]
        exact solidHead
      · rw [if_neg whole]
        cases rest with
        | nil => exact solidHead
        | cons next others =>
            have solidNext : ∀ c ∈ next, isBlank c = false :=
              isBlank_of_mem_words (by rw [found]; simp)
            intro c member
            obtain inHead | member := List.mem_append.1 member
            · exact solidHead c inHead
            · obtain rfl | inNext := List.mem_cons.1 member
              · decide
              · exact solidNext c inNext

/-- Taken for a pattern, a key loses a leading `@` and nothing else. -/
theorem patternKey_patternKey (pattern : String) :
    patternKey (patternKey pattern) =
      String.ofList (withoutSign (patternKey pattern).toList) := by
  obtain ⟨text, solidText, isKey⟩ := exists_patternKey pattern
  generalize patternKey pattern = key at isKey
  have plain : ∀ c ∈ key.toList, isBlank c = false ∧ c.toLower = c := by
    intro c member
    rw [isKey, asciiLower, String.toList_ofList, String.toList_ofList] at member
    obtain ⟨d, isHere, rfl⟩ := List.mem_map.1 member
    rw [isBlank_toLower, toLower_toLower]
    exact ⟨solidText d isHere, rfl⟩
  have plainPart : ∀ c ∈ withoutSign key.toList, isBlank c = false ∧ c.toLower = c :=
    fun c member => plain c (mem_of_mem_withoutSign member)
  have low : asciiLower (String.ofList (withoutSign key.toList)) =
      String.ofList (withoutSign key.toList) := by
    rw [asciiLower, String.toList_ofList,
      List.map_congr_left fun c member => (plainPart c member).2, List.map_id']
  have trimmed : trim key.toList = key.toList := by
    apply trim_of_ends
    · intro c first
      exact (plain c (List.mem_of_head? first)).1
    · intro c last
      exact (plain c (List.mem_of_getLast? last)).1
  rw [patternKey, trimmed, ← withoutSign]
  by_cases empty : withoutSign key.toList = []
  · rw [empty]
    rfl
  · rw [words_of_solid empty fun c member => (plainPart c member).1]
    dsimp only
    rw [ite_self, low]

/-- A key gives the command of its pattern, unless it begins with an `@` and the rest of it is
the key of a template that the context can fill. -/
theorem command?_patternKey_iff (pattern : String) (context : Context) (now : Instant) :
    command? (patternKey pattern) context now = command? pattern context now ↔
      ∀ template : Template, patternKey pattern = "@" ++ template.key →
        ofTemplate? template context now = none := by
  rw [command?, command?, patternKey_patternKey, withoutSign]
  generalize patternKey pattern = key
  cases signed : afterStart? ['@'] key.toList with
  | none =>
      rw [Option.getD_none, String.ofList_toList]
      refine iff_of_true rfl ?_
      rintro template rfl
      have begins := afterStart?_eq_some_iff.2 (toList_atSign_append template.key)
      rw [signed] at begins
      cases begins
  | some rest =>
      obtain rfl : key = "@" ++ String.ofList rest := by
        rw [← String.toList_inj, toList_atSign_append, String.toList_ofList,
          afterStart?_eq_some_iff.1 signed]
      rw [Template.ofKey?_atSign, Option.getD_some, Option.bind_none,
        Option.bind_eq_none_iff]
      constructor
      · intro nothing template isKey
        apply nothing template
        rw [Template.ofKey?_eq_some_iff]
        exact (String.append_right_inj "@").1 isKey.symm
      · intro nothing template chosen
        apply nothing template
        rw [Template.ofKey?_eq_some_iff.1 chosen]

end Generation

/-! ## The context and the session -/

namespace Assistant

variable {assistant : Assistant} {context : Context} {now : Instant}

/-- Without memory and without a guess, an assistant finds the issue key in the context. -/
theorem key?_keySource (noMemory : assistant.recentKey? now = none)
    (few : ∀ copy ∈ context.git, copy.recentCommits.length ≤ assistant.settings.commitLimit) :
    (assistant.keySource context now).key? none = Generation.issueKey? context := by
  rw [keySource, Generation.issueKey?, noMemory]
  cases context.currentBranchName?.bind IssueKey.ofText? with
  | some key => rfl
  | none =>
      cases known : context.git with
      | none =>
          dsimp only
          rw [Option.map_none, Option.getD_none, List.take_nil]
          rfl
      | some copy =>
          have all : copy.recentCommits.take assistant.settings.commitLimit =
              copy.recentCommits := List.take_of_length_le (few copy known)
          dsimp only
          rw [Option.map_some, Option.getD_some, all, Option.bind_some]
          cases copy.recentCommits with
          | nil => rfl
          | cons commit others => rfl

theorem generate_eq_command? (noMemory : assistant.recentKey? now = none)
    (few : ∀ copy ∈ context.git, copy.recentCommits.length ≤ assistant.settings.commitLimit)
    (pattern : String) :
    (assistant.generate pattern context now none).2 =
      Generation.command? (Generation.patternKey pattern) context now := by
  rw [generate]
  by_cases isIssue : Generation.patternKey pattern = Template.issue.key
  · have chosen : Template.ofKey? (Generation.patternKey Template.issue.key) = some .issue := by
      decide +kernel
    rw [if_pos isIssue, isIssue, Generation.command?, chosen, Option.bind_some,
      Generation.ofTemplate?, Generation.values?]
    dsimp only
    rw [key?_keySource noMemory few]
    cases Generation.issueKey? context <;> rfl
  · rw [if_neg isIssue]

end Assistant

namespace Session

variable {session : Session} {context : Context}

/-- What a session generates without memory and without a language model is the command
that the context gives for the same pattern, except where the pattern's key is an `@` in
front of the key of a template that the context can fill. -/
theorem generate_eq_command?_iff (noModel : session.model = none)
    (noMemory : session.assistant.recentKey? session.clock = none)
    (few : ∀ copy ∈ context.git,
      copy.recentCommits.length ≤ session.assistant.settings.commitLimit)
    (pattern : String) :
    (session.generate pattern (some context)).2 =
        Generation.command? pattern context session.clock ↔
      ∀ template : Template, Generation.patternKey pattern = "@" ++ template.key →
        Generation.ofTemplate? template context session.clock = none := by
  have alone : session.guess pattern context = (session, none) := by
    rw [guess, noModel]
    cases session.assistant.question? pattern context session.clock <;> rfl
  have generated : (session.generate pattern (some context)).2 =
      Generation.command? (Generation.patternKey pattern) context session.clock := by
    rw [generate, Option.getD_some, alone]
    dsimp only
    exact Assistant.generate_eq_command? noMemory few pattern
  rw [generated]
  exact Generation.command?_patternKey_iff pattern context session.clock

/-- A session without plugins, background and language model. -/
def bare : Session := create ⟨.standard, .empty, false, true, ⟨0, 0⟩, none⟩

/-- A working copy on a branch that follows no other. -/
def onBranch (name : String) : Context :=
  { Context.empty with git := some ⟨[⟨name, none, true⟩], [], none, none, []⟩ }

theorem length_onBranch (name : String) : ∀ copy ∈ (onBranch name).git,
    copy.recentCommits.length ≤ bare.assistant.settings.commitLimit := by
  rintro copy ⟨⟩
  exact Nat.zero_le _

theorem generate_eq_command?_iff_push :
    bare.model = none ∧ bare.assistant.recentKey? bare.clock = none ∧
      (∀ copy ∈ (onBranch "main").git,
        copy.recentCommits.length ≤ bare.assistant.settings.commitLimit) ∧
      ((bare.generate "@git:push" (some (onBranch "main"))).2 =
          Generation.command? "@git:push" (onBranch "main") bare.clock ↔
        ∀ template : Template, Generation.patternKey "@git:push" = "@" ++ template.key →
          Generation.ofTemplate? template (onBranch "main") bare.clock = none) :=
  ⟨rfl, rfl, length_onBranch "main",
    generate_eq_command?_iff rfl rfl (length_onBranch "main") "@git:push"⟩

/-- A pattern with two signs selects nothing by itself, but something in a session. -/
theorem not_generate_eq_command?_doubled :
    ¬∀ (session : Session) (context : Context) (pattern : String),
      session.model = none → session.assistant.recentKey? session.clock = none →
        (∀ copy ∈ context.git,
          copy.recentCommits.length ≤ session.assistant.settings.commitLimit) →
        (session.generate pattern (some context)).2 =
          Generation.command? pattern context session.clock := by
  intro always
  have byContext :
      Generation.command? "@@git:push" (onBranch "main") bare.clock = none := by
    decide +kernel
  have inSession : (bare.generate "@@git:push" (some (onBranch "main"))).2 =
      some "@git:push origin main --set-upstream" := by decide +kernel
  have same := always bare (onBranch "main") "@@git:push" rfl rfl (length_onBranch "main")
  rw [inSession, byContext] at same
  cases same

end Session

end ChatOps
