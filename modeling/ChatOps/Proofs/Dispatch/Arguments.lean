import ChatOps.Proofs.Command.Addressed
import ChatOps.Proofs.Dispatch.Choice
import ChatOps.Proofs.Plugin.Store

/-!
# Arguments on their way

What a command says reaches the code that is run for it: its flags and options, its
arguments, and the part behind its name, which goes into the name or in front of the
arguments.  Commands of agents are the exception.  Their part behind the name is dropped,
and so they arrive intact just if they have none (`intact_iff_of_parse`).
-/

set_option autoImplicit false

namespace ChatOps.Dispatch

/-- Whether what the code is given carries all that a command says. -/
structure Intact (command : Command) (given : Invocation) : Prop where
  flags : given.flags = command.flags
  options : given.options = command.options
  alone : command.sub = none → given.args = command.args
  part : ∀ sub, command.sub = some sub →
    (given.command = command.name ++ ":" ++ sub ∧ given.args = command.args) ∨
      given.args = .string sub :: command.args

variable {tables : Tables} {store : PluginStore} {command : Command} {given : Invocation}

/-! ## Commands of domains -/

theorem intact_invocationWithSub (command : Command) :
    Intact command (invocationWithSub command) := by
  unfold invocationWithSub
  cases sub : command.sub with
  | none =>
      refine ⟨rfl, rfl, fun _ => rfl, ?_⟩
      intro other isSub
      rw [sub] at isSub
      cases isSub
  | some part =>
      refine ⟨rfl, rfl, ?_, ?_⟩
      · intro isNone
        rw [sub] at isNone
        cases isNone
      · intro other isSub
        rw [sub] at isSub
        cases isSub
        exact .inr rfl

theorem intact_qualified {name : String} (qualified : qualifiedName command = some name) :
    Intact command { invocation command with command := name } := by
  obtain ⟨part, isPart, whole⟩ := Option.map_eq_some_iff.1 qualified
  refine ⟨rfl, rfl, fun _ => rfl, ?_⟩
  intro sub isSub
  rw [isPart] at isSub
  cases isSub
  exact .inl ⟨whole.symm, rfl⟩

theorem intact_of_domain {domain : Domain} (domainIs : command.domain = some domain)
    (runs : (ofCommand tables store command).given? = some given) : Intact command given := by
  rcases given?_ofCommand runs with ⟨hit, found, same⟩ | same
  · rw [match?, domainIs] at found
    rcases domainMatch?_eq_some found with ⟨name, qualified, _, carries⟩ | ⟨_, carries⟩
    · rw [← same, carries]
      exact intact_qualified qualified
    · rw [← same, carries]
      exact intact_invocationWithSub command
  · rw [same, asked, domainIs]
    exact intact_invocationWithSub command

/-! ## Other commands -/

theorem given_eq_of_no_domain (noDomain : command.domain = none)
    (runs : (ofCommand tables store command).given? = some given) :
    given = invocation command := by
  rcases given?_ofCommand runs with ⟨hit, found, same⟩ | same
  · rw [← same, (handler_of_match? noDomain found).1]
  · rw [same, asked, noDomain]

/-- Without a domain, the part behind the name is dropped. -/
theorem intact_invocation_iff : Intact command (invocation command) ↔ command.sub = none := by
  constructor
  · intro intact
    cases sub : command.sub with
    | none => rfl
    | some part =>
        rcases intact.part part sub with ⟨sameName, _⟩ | sameArgs
        · have lengths := congrArg (fun name => name.toList.length) sameName
          simp [invocation] at lengths
        · have lengths := congrArg List.length sameArgs
          simp [invocation] at lengths
  · intro none
    refine ⟨rfl, rfl, fun _ => rfl, ?_⟩
    intro sub isSub
    rw [none] at isSub
    cases isSub

theorem intact_iff_of_no_domain (noDomain : command.domain = none)
    (runs : (ofCommand tables store command).given? = some given) :
    Intact command given ↔ command.sub = none := by
  rw [given_eq_of_no_domain noDomain runs, intact_invocation_iff]

/-! ## Every command -/

/-- The code that is run for a text is given all that the text says, unless an agent is
addressed with a part behind the name. -/
theorem intact_iff_of_parse {text : String} (read : Command.parse text = .ok command)
    (runs : (ofCommand tables store command).given? = some given) :
    Intact command given ↔ (command.kind = .agent → command.sub = none) := by
  cases Command.Addressed.of_parse read with
  | domain place sigil kind domain agent segment sub =>
      refine iff_of_true (intact_of_domain domain runs) ?_
      intro isAgent
      rw [kind] at isAgent
      cases isAgent
  | agent sigil kind domain agent segment sub =>
      rw [intact_iff_of_no_domain domain runs]
      exact ⟨fun none _ => none, fun none => none kind⟩
  | system sigil kind domain agent name sub =>
      rw [intact_iff_of_no_domain domain runs]
      exact iff_of_true sub fun _ => sub

/-- A plugin with a command of its own and a command for a domain. -/
def robot : Plugin :=
  .plain "Robot"
    [⟨"run", "", none, [], [], none⟩, ⟨"stash", "", none, [], [], some .git⟩]
    fun _ => .done (.ok .empty)

/-- A store that holds nothing but the plugin. -/
def robots : PluginStore := .ofList [robot]

theorem intact_iff_of_parse_stash :
    ∃ command given, Command.parse "@git:stash:pop now" = .ok command ∧
      (ofCommand (Tables.ofPlugins robots).1 robots command).given? = some given ∧
      (Intact command given ↔ (command.kind = .agent → command.sub = none)) := by
  have accepted : (Command.parse "@git:stash:pop now").toOption.any (fun command =>
      (ofCommand (Tables.ofPlugins robots).1 robots command).given?.isSome) = true := by
    decide +kernel
  cases read : Command.parse "@git:stash:pop now" with
  | ok command =>
      rw [read] at accepted
      obtain ⟨given, runs⟩ := Option.isSome_iff_exists.1 accepted
      exact ⟨command, given, rfl, runs, intact_iff_of_parse read runs⟩
  | error reason =>
      rw [read] at accepted
      cases accepted

/-- A plugin that is addressed by its identifier never learns of the part behind the
name. -/
theorem not_intact_robot :
    ∃ command given, Command.parse "@robot:run:fast now" = .ok command ∧
      (ofCommand (Tables.ofPlugins robots).1 robots command).given? = some given ∧
      ¬ Intact command given := by
  have accepted : (Command.parse "@robot:run:fast now").toOption.any (fun command =>
      command.domain.isNone && command.sub.isSome &&
        (ofCommand (Tables.ofPlugins robots).1 robots command).given?.isSome) = true := by
    decide +kernel
  cases read : Command.parse "@robot:run:fast now" with
  | ok command =>
      rw [read] at accepted
      simp only [Except.toOption, Option.any_some, Bool.and_eq_true] at accepted
      obtain ⟨⟨noDomain, hasSub⟩, runs⟩ := accepted
      obtain ⟨given, runs⟩ := Option.isSome_iff_exists.1 runs
      refine ⟨command, given, rfl, runs, ?_⟩
      rw [intact_iff_of_no_domain (Option.isNone_iff_eq_none.1 noDomain) runs]
      intro none
      rw [none] at hasSub
      cases hasSub
  | error reason =>
      rw [read] at accepted
      cases accepted

end ChatOps.Dispatch
