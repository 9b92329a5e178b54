import ChatOps.Proofs.Generation.Line

/-!
# Commands with composed texts

Messages for commits, names for new branches, keys of issues and targets of builds are
composed of parts that cannot be mistaken for anything but text, whatever the names of
files, branches and users are.  The commands that are generated with them are read with
exactly these texts (`parse_command?`).
-/

set_option autoImplicit false

namespace ChatOps.Generation

open ChatOps.Token

/-! ## Messages -/

theorem toList_message? {context : Context} {message : String}
    (found : message? context = some message) :
    ∃ rest, message.toList = 'U' :: rest := by
  have update (rest : String) : ("Update " ++ rest).toList =
      'U' :: ("pdate ".toList ++ rest.toList) := by simp
  unfold message? commitMessage? at found
  split at found
  · obtain ⟨file, _, rfl⟩ := Option.map_eq_some_iff.1 found
    exact ⟨_, update _⟩
  · cases found
    exact ⟨_, update _⟩
  · cases found
    rw [String.append_assoc]
    exact ⟨_, update _⟩

/-- A short flag takes the text behind it. -/
theorem ofTokens_message {message : String} {rest : List Char}
    (shape : message.toList = 'U' :: rest) :
    Arguments.ofTokens ["-m", message] = .ofTexts [] [("m", .string message)] := by
  have short : Shape.ofToken "-m" = .short "m" := by decide
  have plain := isDashed_of_letter shape (by decide)
  have literal := isLiteral_of_capital shape (by decide)
  rw [Arguments.ofTokens, itemsOf, short]
  simp only [plain, inferValue_eq_string_iff.2 literal, itemsOf]
  rfl

/-! ## Names of branches -/

theorem workKind_mem (branch : Option String) : workKind branch ∈ workKinds := by
  have feature : "feature" ∈ workKinds := by decide
  unfold workKind
  split
  · simp only []
    split
    · next known => exact List.contains_iff_mem.1 known
    · exact feature
  · exact feature

theorem workKind_begins : ∀ kind ∈ workKinds,
    (kind.toList.head?.any Char.isAlpha) = true ∧ '=' ∉ kind.toList := by
  decide

theorem toList_newBranch (context : Context) (now : Instant) :
    ∃ kind ∈ workKinds, ∃ rest, (newBranch context now).toList = kind.toList ++ '/' :: rest := by
  refine ⟨workKind context.currentBranchName?, workKind_mem _,
    (owner (context.git.bind WorkingCopy.userName)).toList ++ '/' :: (now.monthDay ++ ['/']),
    ?_⟩
  simp [newBranch, branchName]

theorem newBranch_verbatim (context : Context) (now : Instant) :
    isDashed (newBranch context now) = false ∧ IsVerbatim (newBranch context now) := by
  obtain ⟨kind, known, rest, shape⟩ := toList_newBranch context now
  obtain ⟨letter, equals⟩ := workKind_begins kind known
  have slash : '/' ∈ (newBranch context now).toList := by simp [shape]
  have keyless := not_hasKey_of_slash shape equals
  cases start : kind.toList with
  | nil =>
      rw [start] at letter
      cases letter
  | cons c others =>
      rw [start, List.head?_cons, Option.any_some] at letter
      rw [start, List.cons_append] at shape
      refine ⟨isDashed_of_letter shape letter, isLiteral_of_letter shape letter ?_ ?_, keyless⟩
      · intro truth
        rw [truth] at slash
        revert slash
        decide
      · intro truth
        rw [truth] at slash
        revert slash
        decide

/-! ## Keys of issues -/

theorem issueKey?_verbatim {context : Context} {key : String}
    (found : issueKey? context = some key) :
    isDashed key = false ∧ IsVerbatim key := by
  have isKey := isKey_of_issueKey? found
  have equals : '=' ∉ key.toList := fun member => (isKey.bare '=' member).2 rfl
  generalize shape : key.toList = chars at isKey
  obtain ⟨capital, _, _, _, _⟩ := isKey
  exact ⟨isDashed_of_letter shape (isAlpha_of_isUpper capital),
    isLiteral_of_capital shape capital, not_hasKey_of_equals equals⟩

/-! ## Targets of builds -/

theorem isLiteral_buildTarget (branch : Option String) :
    IsLiteral (buildTarget branch).target := by
  have literal : ∀ target ∈ targets, IsLiteral target := by decide
  exact literal _ (target_mem branch)

/-! ## Reading -/

/-- The templates whose texts are composed. -/
def composed : List Template := [.commit, .branch, .issue, .build]

theorem ofTokens_text {template : Template} {text : String} (ordinary : template ≠ .commit)
    (plain : isDashed text = false) (verbatim : IsVerbatim text) :
    Arguments.ofTokens ((words template ⟨[text], []⟩).map Word.token) =
      .ofTexts [text] [] := by
  have alone : ∀ token ∈ ([] : List String), isDashed token = false ∧ IsVerbatim token := by
    simp
  exact (ofTokens_words_iff ordinary alone plain (by simp)).2 verbatim

theorem ofTokens_build {chosen : BuildTarget} (literal : IsLiteral chosen.target) :
    Arguments.ofTokens ((words .build (buildFilling chosen)).map Word.token) =
      (buildFilling chosen).arguments := by
  have kept : ∀ flag ∈ (buildFilling chosen).flags, Arguments.IsKeptFlag flag := by
    intro flag member
    rcases flag_of_buildFilling member with rfl | rfl
    · exact ⟨by simp, by simp, reread_string literal⟩
    · exact ⟨by simp, by simp, reread_true⟩
  have ordinary : Template.build ≠ .commit := by decide
  have tokens := tokens_words ordinary [] (buildFilling chosen).flags
  rw [List.nil_append] at tokens
  exact (congrArg Arguments.ofTokens tokens).trans (Arguments.ofTokens_flagWords kept)

theorem ofTokens_composed {template : Template} {context : Context} {now : Instant}
    {filling : Filling} (isComposed : template ∈ composed)
    (filled : filling? template context now = some filling) :
    Arguments.ofTokens ((words template filling).map Word.token) = filling.arguments := by
  cases template with
  | commit =>
      obtain ⟨message, found, rfl⟩ := Option.map_eq_some_iff.1 filled
      obtain ⟨rest, shape⟩ := toList_message? found
      have tokens : (words .commit ⟨[], [("m", .string message)]⟩).map Word.token =
          ["-m", message] := by
        simp [words, Word.token, Word.chars, argWord, Output.plainText]
      rw [tokens, ofTokens_message shape]
      rfl
  | branch =>
      cases filled
      obtain ⟨plain, verbatim⟩ := newBranch_verbatim context now
      exact ofTokens_text (by decide) plain verbatim
  | issue =>
      obtain ⟨key, found, rfl⟩ := Option.map_eq_some_iff.1 filled
      obtain ⟨plain, verbatim⟩ := issueKey?_verbatim found
      exact ofTokens_text (by decide) plain verbatim
  | build =>
      cases filled
      exact ofTokens_build (isLiteral_buildTarget _)
  | _ => simp [composed] at isComposed

/-- Whatever is generated is read as the command of its template, and with the texts that
were composed for it. -/
theorem parse_command? {pattern : String} {context : Context} {now : Instant}
    {text : String} (generated : command? pattern context now = some text) :
    ∃ template filling command,
      Template.ofKey? (patternKey pattern) = some template ∧
        filling? template context now = some filling ∧
        Command.parse text = .ok command ∧ template.Heads command ∧
        (template ∈ composed → command.arguments = filling.arguments) := by
  obtain ⟨template, chosen, written⟩ := Option.bind_eq_some_iff.1 generated
  rw [ofTemplate?_eq] at written
  obtain ⟨filling, filled, rfl⟩ := Option.map_eq_some_iff.1 written
  obtain ⟨command, reading, heads, arguments⟩ :=
    parse_lineFor template (isPlain_of_filling? filled)
  refine ⟨template, filling, command, chosen, filled, reading, heads, ?_⟩
  intro isComposed
  rw [arguments, ofTokens_composed isComposed filled]

/-- A file whose name has a quote, a dash and an equals sign. -/
def awkwardFile : Context := { Context.empty with activeFile := some "src/--a=\"b\".rs" }

theorem parse_command?_awkwardFile :
    command? "git commit" awkwardFile ⟨0, 0⟩ =
        some "@git:commit -m \"Update --a=\\\"b\\\".rs\"" ∧
      ∃ template filling command,
        Template.ofKey? (patternKey "git commit") = some template ∧
          filling? template awkwardFile ⟨0, 0⟩ = some filling ∧
          Command.parse "@git:commit -m \"Update --a=\\\"b\\\".rs\"" = .ok command ∧
          template.Heads command ∧
          (template ∈ composed → command.arguments = filling.arguments) :=
  have generated : command? "git commit" awkwardFile ⟨0, 0⟩ =
      some "@git:commit -m \"Update --a=\\\"b\\\".rs\"" := by decide +kernel
  ⟨generated, parse_command? generated⟩

end ChatOps.Generation
