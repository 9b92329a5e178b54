import ChatOps.Proofs.Generation.Line

/-!
# Commands with names from the repository

The names of branches and of the repository are quoted where the scanner would split
them, and otherwise written as they are.  A command that is generated with such a name
is read with it just if the name looks like nothing but text
(`arguments_eq_iff_isVerbatim`).  A branch `a=b` is read as an option, and a branch
`123` as a number.
-/

set_option autoImplicit false

namespace ChatOps.Generation

open ChatOps.Token

/-- The name that a template takes over from the repository. -/
def carried? (template : Template) (context : Context) : Option String :=
  match template with
  | .push => context.currentBranchName?
  | .pull => context.currentBranchName?
  | .checkout => nextBranch? context
  | .load => repository? context
  | .pocketSearch => repository? context
  | _ => none

/-- A filling that ends with a name, with nothing in front that can be mistaken. -/
structure EndsWith (filling : Filling) (name : String) : Prop where
  texts : ∃ before, filling.texts = before ++ [name] ∧
    ∀ token ∈ before, isDashed token = false ∧ IsVerbatim token
  flags : ∀ flag ∈ filling.flags, Arguments.IsKeptFlag flag

theorem endsWith_single (name : String) : EndsWith ⟨[name], []⟩ name :=
  ⟨⟨[], rfl, by simp⟩, by simp⟩

theorem endsWith_remoteFilling (branch : Branch) :
    EndsWith (remoteFilling branch) branch.name where
  texts := by
    have literal : IsLiteral "origin" := by decide
    have keyless := not_hasKey_of_equals (show '=' ∉ "origin".toList by decide)
    refine ⟨["origin"], rfl, ?_⟩
    intro token member
    rw [List.mem_singleton.1 member]
    exact ⟨by decide, literal, keyless⟩
  flags := by
    intro flag member
    rw [flag_of_remoteFilling member]
    exact ⟨by simp, by simp, reread_true⟩

theorem filling?_of_carried? {template : Template} {context : Context} {name : String}
    (carries : carried? template context = some name) (now : Instant) :
    ∃ filling, filling? template context now = some filling ∧ EndsWith filling name := by
  have remote (here : context.currentBranchName? = some name) :
      ∃ filling, context.currentBranch?.map remoteFilling = some filling ∧
        EndsWith filling name := by
    obtain ⟨branch, current, rfl⟩ := Option.map_eq_some_iff.1 here
    exact ⟨_, by rw [current]; rfl, endsWith_remoteFilling branch⟩
  have single {text : Option String} (here : text = some name) :
      ∃ filling, (text.map fun given => (⟨[given], []⟩ : Filling)) = some filling ∧
        EndsWith filling name :=
    ⟨_, by rw [here]; rfl, endsWith_single name⟩
  cases template with
  | push => exact remote carries
  | pull => exact remote carries
  | checkout => exact single carries
  | load => exact single carries
  | pocketSearch => exact single carries
  | _ => cases carries

theorem ofTokens_eq_iff_of_endsWith {template : Template} (ordinary : template ≠ .commit)
    {filling : Filling} {name : String} (ends : EndsWith filling name)
    (plain : isDashed name = false) :
    Arguments.ofTokens ((words template filling).map Word.token) = filling.arguments ↔
      IsVerbatim name := by
  obtain ⟨texts, flags⟩ := filling
  obtain ⟨⟨before, shape, verbatim⟩, kept⟩ := ends
  cases shape
  exact ofTokens_words_iff ordinary verbatim plain kept

/-- A command with a name from the repository is read with that name, as text and in its
place, just if the name looks like nothing but text. -/
theorem arguments_eq_iff_isVerbatim {pattern name : String} {template : Template}
    {context : Context} (chosen : Template.ofKey? (patternKey pattern) = some template)
    (carries : carried? template context = some name) (plain : isDashed name = false)
    (now : Instant) :
    ∃ text filling command,
      command? pattern context now = some text ∧
        filling? template context now = some filling ∧
        Command.parse text = .ok command ∧ template.Heads command ∧
        (command.arguments = filling.arguments ↔ IsVerbatim name) := by
  obtain ⟨filling, filled, ends⟩ := filling?_of_carried? carries now
  have written : command? pattern context now = some (lineFor template filling) := by
    rw [command?, chosen, Option.bind_some, ofTemplate?_eq, filled, Option.map_some]
  have ordinary : template ≠ .commit := by
    rintro rfl
    cases carries
  obtain ⟨command, reading, heads, arguments⟩ :=
    parse_lineFor template (isPlain_of_filling? filled)
  refine ⟨_, filling, command, written, filled, reading, heads, ?_⟩
  rw [arguments]
  exact ofTokens_eq_iff_of_endsWith ordinary ends plain

/-- A working copy on a branch that follows no other, with one more branch. -/
def twoBranches (current other : String) : Context :=
  { Context.empty with
    git := some ⟨[⟨current, none, true⟩, ⟨other, none, false⟩], [], none, none, []⟩ }

theorem arguments_eq_iff_isVerbatim_push :
    Template.ofKey? (patternKey "@git:push") = some .push ∧
      carried? .push (twoBranches "it's \"7\"" "main") = some "it's \"7\"" ∧
      isDashed "it's \"7\"" = false ∧
      ∃ text filling command,
        command? "@git:push" (twoBranches "it's \"7\"" "main") ⟨0, 0⟩ = some text ∧
          filling? .push (twoBranches "it's \"7\"" "main") ⟨0, 0⟩ = some filling ∧
          Command.parse text = .ok command ∧ Template.push.Heads command ∧
          (command.arguments = filling.arguments ↔ IsVerbatim "it's \"7\"") :=
  have chosen : Template.ofKey? (patternKey "@git:push") = some .push := by decide +kernel
  ⟨chosen, rfl, by decide, arguments_eq_iff_isVerbatim chosen rfl (by decide) ⟨0, 0⟩⟩

/-- A branch whose name looks like an option is not checked out by its name. -/
theorem not_arguments_eq_option :
    ¬∀ (pattern : String) (template : Template) (context : Context) (now : Instant)
      (text : String) (filling : Filling),
      (∀ copy, context.git = some copy →
        ∀ branch ∈ copy.branches, branch.name ≠ "" ∧ isDashed branch.name = false) →
      (∀ name, repository? context = some name → isDashed name = false) →
      Template.ofKey? (patternKey pattern) = some template →
      carried? template context ≠ none →
      command? pattern context now = some text →
      filling? template context now = some filling →
      ∃ command, Command.parse text = .ok command ∧
        command.arguments = filling.arguments := by
  intro always
  have named : ∀ copy, (twoBranches "main" "a=b").git = some copy →
      ∀ branch ∈ copy.branches, branch.name ≠ "" ∧ isDashed branch.name = false := by
    rintro copy ⟨⟩
    decide
  have generated : command? "@git:checkout" (twoBranches "main" "a=b") ⟨0, 0⟩ =
      some "@git:checkout a=b" := by decide +kernel
  have noArguments : ((Command.parse "@git:checkout a=b").toOption.map
      fun command => command.args.length) = some 0 := by decide +kernel
  have filled : filling? .checkout (twoBranches "main" "a=b") ⟨0, 0⟩ =
      some ⟨["a=b"], []⟩ := by
    have other : nextBranch? (twoBranches "main" "a=b") = some "a=b" := by decide +kernel
    rw [filling?, other]
    rfl
  obtain ⟨command, reading, same⟩ := always "@git:checkout" .checkout
    (twoBranches "main" "a=b") ⟨0, 0⟩ _ _ named (by rintro name ⟨⟩) (by decide +kernel)
    (by decide +kernel) generated filled
  rw [reading] at noArguments
  have oneArgument := congrArg (fun arguments => arguments.args.length) same
  have none := Option.some.inj noArguments
  exact absurd (oneArgument.symm.trans none) (by decide)

end ChatOps.Generation
