import ChatOps.Dispatch
import ChatOps.Proofs.Execution.Ending
import ChatOps.Proofs.Registry.Lookup

/-!
# What is chosen for a command

Commands of domains, of agents and of the core are treated alike.  A plugin may have to be
ready first, then a handler is sought, and what is not found is asked of that plugin
(`ofCommand_eq`).  From this it can be read off whose code is run (`owner?_ofCommand_iff`)
and what it is given (`given?_ofCommand`).
-/

set_option autoImplicit false

namespace ChatOps.Dispatch

/-- The plugin whose code is run. -/
def owner? : Dispatch → Option Plugin
  | .invoke (.plugin owner) _ => some owner
  | .delegate owner _ _ => some owner
  | _ => none

/-- What the code is given that is run. -/
def given? : Dispatch → Option Invocation
  | .invoke _ given => some given
  | .delegate _ given _ => some given
  | _ => none

/-- The plugin that has to be ready for a command. -/
def consulted? (store : PluginStore) (command : Command) : Option Plugin :=
  match command.domain with
  | some domain => store.ofDomain? domain
  | none => if command.sigil = .atSign then store.get? command.agent else none

/-- The handler that is found for a command. -/
def match? (tables : Tables) (command : Command) : Option Match :=
  match command.domain with
  | some domain => domainMatch? tables domain command
  | none =>
      let handler? :=
        if command.sigil = .atSign then tables.handler? (.agent command.agent) command.name
        else coreHandler? tables command.name
      handler?.map fun handler => ⟨handler, invocation command⟩

/-- What a plugin is asked without a handler. -/
def asked (command : Command) : Invocation :=
  match command.domain with
  | some _ => invocationWithSub command
  | none => invocation command

def miss (command : Command) : Miss :=
  match command.domain with
  | some domain => .domain domain command.name
  | none =>
      if command.sigil = .atSign then .agent command.agent command.name command.raw
      else .core command.name

variable {tables : Tables} {store : PluginStore} {command : Command}

theorem ofCommand_eq (tables : Tables) (store : PluginStore) (command : Command) :
    ofCommand tables store command =
      guarded (consulted? store command)
        (route (match? tables command) (consulted? store command) (asked command)
          (miss command)) := by
  unfold ofCommand consulted? match? asked miss
  cases command.domain with
  | some domain => rfl
  | none =>
      by_cases addressed : command.sigil = .atSign
      · simp only [if_pos addressed]
        rfl
      · simp only [if_neg addressed, ofCore]
        cases coreHandler? tables command.name with
        | some handler => rfl
        | none => rfl

/-! ## Readiness -/

/-- Whether nobody who has to be ready for a command is not. -/
def Admitted (store : PluginStore) (command : Command) : Prop :=
  ∀ plugin, consulted? store command = some plugin → plugin.availability = .ready

theorem ofCommand_of_admitted (admitted : Admitted store command) :
    ofCommand tables store command =
      route (match? tables command) (consulted? store command) (asked command)
        (miss command) := by
  rw [ofCommand_eq]
  cases consults : consulted? store command with
  | none => rfl
  | some plugin => simp only [guarded, admitted plugin consults]

theorem ofCommand_of_unready {plugin : Plugin}
    (consults : consulted? store command = some plugin)
    (unready : plugin.availability ≠ .ready) :
    ofCommand tables store command = .unavailable plugin.id plugin.availability := by
  rw [ofCommand_eq, consults]
  simp only [guarded]

/-- Code is run only for a command that is admitted. -/
theorem admitted_of_given? {given : Invocation}
    (runs : (ofCommand tables store command).given? = some given) :
    Admitted store command := by
  intro plugin consults
  by_cases ready : plugin.availability = .ready
  · exact ready
  · rw [ofCommand_of_unready consults ready] at runs
    cases runs

theorem given?_of_owner? {todo : Dispatch} {owner : Plugin} (runs : todo.owner? = some owner) :
    ∃ given, todo.given? = some given := by
  cases todo with
  | invoke handler given => exact ⟨given, rfl⟩
  | delegate plugin given otherwise => exact ⟨given, rfl⟩
  | unavailable plugin availability => cases runs
  | unknown miss => cases runs

/-! ## What is run -/

/-- The code that is run belongs to the handler that is found, or else to the plugin that
is asked. -/
theorem owner?_ofCommand_iff {owner : Plugin} :
    (ofCommand tables store command).owner? = some owner ↔
      Admitted store command ∧
        ((∃ hit, match? tables command = some hit ∧ hit.handler = .plugin owner) ∨
          (match? tables command = none ∧ consulted? store command = some owner)) := by
  constructor
  · intro runs
    obtain ⟨given, givenRuns⟩ := given?_of_owner? runs
    have admitted := admitted_of_given? givenRuns
    refine ⟨admitted, ?_⟩
    rw [ofCommand_of_admitted admitted] at runs
    cases found : match? tables command with
    | some hit =>
        rw [found, route] at runs
        obtain ⟨handler, given⟩ := hit
        cases handler with
        | plugin other =>
            cases runs
            exact .inl ⟨_, rfl, rfl⟩
        | builtin command => cases runs
        | custom code => cases runs
    | none =>
        rw [found] at runs
        cases consults : consulted? store command with
        | none =>
            rw [consults, route] at runs
            cases runs
        | some plugin =>
            rw [consults, route] at runs
            cases runs
            exact .inr ⟨rfl, rfl⟩
  · rintro ⟨admitted, ⟨hit, found, isOwner⟩ | ⟨missed, consults⟩⟩
    · rw [ofCommand_of_admitted admitted, found, route, isOwner]
      rfl
    · rw [ofCommand_of_admitted admitted, missed, consults, route]
      rfl

/-- A handler that is invoked is the one that is found, with what belongs to it. -/
theorem match?_of_invoke {handler : Handler} {given : Invocation}
    (invoked : ofCommand tables store command = .invoke handler given) :
    match? tables command = some ⟨handler, given⟩ := by
  have runs : (ofCommand tables store command).given? = some given := by
    rw [invoked]
    rfl
  rw [ofCommand_of_admitted (admitted_of_given? runs)] at invoked
  cases found : match? tables command with
  | some hit =>
      rw [found] at invoked
      cases invoked
      rfl
  | none =>
      rw [found] at invoked
      cases consults : consulted? store command <;> rw [consults] at invoked <;> cases invoked

/-- The code that is run is given what belongs to the handler that is found, or else what
the plugin is asked. -/
theorem given?_ofCommand {given : Invocation}
    (runs : (ofCommand tables store command).given? = some given) :
    (∃ hit, match? tables command = some hit ∧ hit.invocation = given) ∨
      given = asked command := by
  rw [ofCommand_of_admitted (admitted_of_given? runs)] at runs
  cases found : match? tables command with
  | some hit =>
      rw [found, route] at runs
      exact .inl ⟨hit, rfl, Option.some.inj runs⟩
  | none =>
      right
      rw [found] at runs
      cases consults : consulted? store command with
      | none =>
          rw [consults, route] at runs
          cases runs
      | some plugin =>
          rw [consults, route] at runs
          exact (Option.some.inj runs).symm

/-- Carrying out what is chosen runs the code of its owner and nothing else. -/
theorem start_of_owner? {todo : Dispatch} {owner : Plugin} {given : Invocation}
    (ownerIs : todo.owner? = some owner) (givenIs : todo.given? = some given)
    (registry : Registry) :
    ∃ finish : PluginOutcome → Outcome,
      todo.start registry = (registry, (owner.run given).map finish) := by
  cases todo with
  | invoke handler other =>
      cases givenIs
      cases handler with
      | plugin same =>
          cases ownerIs
          exact ⟨_, congrArg (Prod.mk registry) (Routine.map_map ..)⟩
      | builtin command => cases ownerIs
      | custom code => cases ownerIs
  | delegate plugin other otherwise =>
      cases ownerIs
      cases givenIs
      exact ⟨_, rfl⟩
  | unavailable plugin availability => cases ownerIs
  | unknown miss => cases ownerIs

/-- A handler is never said to be unavailable. -/
theorem ne_unavailable_of_invoke {handler : Handler} {given : Invocation}
    {registry : Registry} {outcome : Outcome}
    (ends : ((invoke handler given).start registry).2.Ends outcome) (plugin : String)
    (reason : Availability) : outcome ≠ .error (.failure (.unavailable plugin reason)) := by
  obtain ⟨result, _, same⟩ := ends.of_map
  intro refused
  rw [refused] at same
  cases result with
  | ok output => cases same
  | error error => cases error <;> cases same

/-! ## Commands of domains -/

/-- A handler is found for the name together with the part behind it, or for the name
alone with that part in front of the arguments. -/
theorem domainMatch?_eq_some {domain : Domain} {hit : Match}
    (found : domainMatch? tables domain command = some hit) :
    (∃ name, qualifiedName command = some name ∧
        Namespaces.find? tables.handlers (.domain domain) name = some hit.handler ∧
        hit.invocation = { invocation command with command := name }) ∨
      (Namespaces.find? tables.handlers (.domain domain) command.name = some hit.handler ∧
        hit.invocation = invocationWithSub command) := by
  have ordinary : ∀ name, tables.handler? (.domain domain) name =
      Namespaces.find? tables.handlers (.domain domain) name :=
    Tables.handler?_of_ordinary rfl
  unfold domainMatch? at found
  simp only [ordinary] at found
  split at found
  · next qualified =>
      cases found
      obtain ⟨name, isName, inner⟩ := Option.bind_eq_some_iff.1 qualified
      obtain ⟨handler, stored, same⟩ := Option.map_eq_some_iff.1 inner
      cases same
      exact .inl ⟨name, isName, stored, rfl⟩
  · obtain ⟨handler, stored, same⟩ := Option.map_eq_some_iff.1 found
    cases same
    exact .inr ⟨stored, rfl⟩

theorem domainMatch?_of_find? {domain : Domain} {handler : Handler}
    (alone : command.sub = none)
    (found : Namespaces.find? tables.handlers (.domain domain) command.name = some handler) :
    domainMatch? tables domain command = some ⟨handler, invocation command⟩ := by
  unfold domainMatch? qualifiedName invocationWithSub
  rw [alone, Tables.handler?_of_find? found]
  rfl

/-! ## Other commands -/

theorem handler_of_match? (noDomain : command.domain = none) {hit : Match}
    (found : match? tables command = some hit) :
    hit.invocation = invocation command ∧
      (if command.sigil = .atSign then tables.handler? (.agent command.agent) command.name
        else coreHandler? tables command.name) = some hit.handler := by
  rw [match?, noDomain] at found
  obtain ⟨handler, sought, rfl⟩ := Option.map_eq_some_iff.1 found
  exact ⟨rfl, sought⟩

theorem find?_of_coreHandler? {name : String} {handler : Handler}
    (found : coreHandler? tables name = some handler) :
    ∃ spelled, Namespaces.find? tables.handlers .core spelled = some handler := by
  unfold coreHandler? at found
  split at found
  · next slashed =>
      rw [found] at slashed
      exact Tables.find?_of_handler? slashed
  · exact Tables.find?_of_handler? found

/-- Whatever a command looks like, a handler that is found for it stands somewhere in the
tables. -/
theorem find?_of_match? {hit : Match} (found : match? tables command = some hit) :
    ∃ address name, Namespaces.find? tables.handlers address name = some hit.handler := by
  cases domainIs : command.domain with
  | some domain =>
      rw [match?, domainIs] at found
      rcases domainMatch?_eq_some found with ⟨name, _, stored, _⟩ | ⟨stored, _⟩
      · exact ⟨_, name, stored⟩
      · exact ⟨_, command.name, stored⟩
  | none =>
      obtain ⟨_, sought⟩ := handler_of_match? domainIs found
      split at sought
      · exact ⟨_, Tables.find?_of_handler? sought⟩
      · exact ⟨_, find?_of_coreHandler? sought⟩

end ChatOps.Dispatch
