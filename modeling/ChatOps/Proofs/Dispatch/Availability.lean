import ChatOps.Proofs.Dispatch.Choice
import ChatOps.Proofs.Plugin.Store
import ChatOps.Proofs.Registry.Rebuild

/-!
# Plugins that are not ready

The tables are rebuilt from a store of plugins, and commands are carried out later, when
some of the plugins may have been switched on or off.  Whether a plugin is ready is asked
of the plugin that has the command's domain or identifier, and that need not be the one
whose code is run.  So it depends on the plugins whether only those that are ready run
(`onlyReady_iff_shielded`), and whether those that are ready do run
(`servesReady_iff_unhindered`).
-/

set_option autoImplicit false

namespace ChatOps.Dispatch

/-- Whether only plugins run that are ready at the moment. -/
def OnlyReady (tables : Tables) (store : PluginStore) : Prop :=
  ∀ command owner, (ofCommand tables store command).owner? = some owner →
    (store.current owner).availability = .ready

/-- Whether every command of a plugin that is not ready is out of reach.  In a domain, the
first plugin of the domain has to stop it, and for the core there is nobody who could. -/
structure Shielded (tables : Tables) (store : PluginStore) : Prop where
  domain : ∀ domain name owner,
    Namespaces.find? tables.handlers (.domain domain) name = some (.plugin owner) →
      (store.current owner).availability ≠ .ready →
        ∃ first, store.ofDomain? domain = some first ∧ first.availability ≠ .ready
  core : ∀ name owner, coreHandler? tables name = some (.plugin owner) →
    (store.current owner).availability = .ready

/-- Where the handler of a command with a domain or an agent stands. -/
def place? (command : Command) : Option Address :=
  match command.domain with
  | some domain => some (.domain domain)
  | none => if command.sigil = .atSign then some (.agent command.agent) else none

/-- Whether the code of a plugin is run for a command, and the answer is not that some
plugin is not ready. -/
structure Served (todo : Dispatch) (owner : Plugin) (given : Invocation) : Prop where
  invoked : todo = .invoke (.plugin owner) given
  accepted : ∀ (registry : Registry) (outcome : Outcome),
    (todo.start registry).2.Ends outcome →
      ∀ plugin reason, outcome ≠ .error (.failure (.unavailable plugin reason))

/-- Whether the commands of every plugin that is ready at the moment are carried out. -/
def ServesReady (tables : Tables) (store : PluginStore) : Prop :=
  ∀ command address owner, command.sub = none → place? command = some address →
    Namespaces.find? tables.handlers address command.name = some (.plugin owner) →
      (store.current owner).availability = .ready →
        Served (ofCommand tables store command) owner (invocation command)

/-- Whether a plugin that is ready never has commands in a domain whose first plugin is
not. -/
def Unhindered (tables : Tables) (store : PluginStore) : Prop :=
  ∀ domain name owner first,
    Namespaces.find? tables.handlers (.domain domain) name = some (.plugin owner) →
      (store.current owner).availability = .ready → store.ofDomain? domain = some first →
        first.availability = .ready

/-! ## Who is consulted -/

variable {built store : PluginStore} {tables : Tables} {command : Command} {owner : Plugin}

theorem mem_all_of_consulted? (consults : consulted? store command = some owner) :
    owner ∈ store.all := by
  unfold consulted? at consults
  split at consults
  · exact List.mem_of_find?_eq_some consults
  · split at consults
    · exact PluginStore.mem_all_of_get? consults
    · cases consults

/-- For a command of an agent, the plugin that is consulted is the one whose code is
run. -/
theorem get?_eq_current (reachable : built.Reachable) (persists : built.Persists store)
    {agent name : String}
    (found : Namespaces.find? (Tables.ofPlugins built).1.handlers (.agent agent) name =
      some (.plugin owner)) : store.get? agent = some (store.current owner) := by
  have held := (reachable.get?_current persists (Tables.mem_all_of_find? found)).1
  have key : Text.asciiLower owner.id = agent := Tables.key_of_find? found
  rw [← held, PluginStore.get?, PluginStore.get?, ← key, Text.asciiLower_asciiLower]

/-- A handler that is sought at the place of a command is found for it. -/
theorem match?_of_handler? {address : Address} {handler : Handler}
    (alone : command.sub = none) (placed : place? command = some address)
    (found : tables.handler? address command.name = some handler) :
    match? tables command = some ⟨handler, invocation command⟩ := by
  cases domainIs : command.domain with
  | some domain =>
      simp only [place?, domainIs, Option.some.injEq] at placed
      subst placed
      rw [Tables.handler?_of_ordinary rfl] at found
      rw [match?, domainIs]
      exact domainMatch?_of_find? alone found
  | none =>
      simp only [place?, domainIs, Option.ite_none_right_eq_some, Option.some.injEq] at placed
      obtain ⟨addressed, rfl⟩ := placed
      rw [match?, domainIs]
      simp only [if_pos addressed, found]
      rfl

theorem match?_of_find? {address : Address} {handler : Handler} (alone : command.sub = none)
    (placed : place? command = some address)
    (found : Namespaces.find? tables.handlers address command.name = some handler) :
    match? tables command = some ⟨handler, invocation command⟩ :=
  match?_of_handler? alone placed (Tables.handler?_of_find? found)

/-! ## Plugins that keep apart -/

/-- Whether every plugin keeps to its own domain, no two have the same one, and none goes
by the name of the core. -/
structure Separate (store : PluginStore) : Prop where
  own : ∀ plugin ∈ store.all, ∀ declaration ∈ plugin.commands, ∀ domain,
    plugin.addressOf declaration = .domain domain → plugin.domain = some domain
  alone : ∀ plugin ∈ store.all, ∀ other ∈ store.all, ∀ domain,
    plugin.domain = some domain → other.domain = some domain → other = plugin
  ordinary : ∀ plugin ∈ store.all, plugin.key ≠ coreAgent

/-- Where plugins keep apart, the first plugin of a domain has all of its commands. -/
theorem ofDomain?_of_separate (separate : Separate store) (reachable : built.Reachable)
    (persists : built.Persists store) {domain : Domain} {name : String}
    (found : Namespaces.find? (Tables.ofPlugins built).1.handlers (.domain domain) name =
      some (.plugin owner)) : store.ofDomain? domain = some (store.current owner) := by
  obtain ⟨_, declaration, declares, placed, _⟩ := Tables.declared_of_find? found
  obtain ⟨held, same⟩ := reachable.get?_current persists (Tables.mem_all_of_find? found)
  have member := PluginStore.mem_all_of_get? held
  have ownDomain : (store.current owner).domain = some domain := by
    apply separate.own _ member declaration
    · rw [same.commands]
      exact declares
    · rw [same.addressOf]
      exact placed
  cases isFirst : store.ofDomain? domain with
  | none =>
      have missed := List.find?_eq_none.1 isFirst _ member
      simp [ownDomain] at missed
  | some first =>
      have firstDomain : first.domain = some domain := by
        simpa using List.find?_some isFirst
      have firstMember := List.mem_of_find?_eq_some isFirst
      rw [separate.alone _ member first firstMember domain ownDomain firstDomain]

theorem shielded_of_separate (separate : Separate store) (reachable : built.Reachable)
    (persists : built.Persists store) : Shielded (Tables.ofPlugins built).1 store where
  domain := by
    intro domain name owner stored unready
    exact ⟨_, ofDomain?_of_separate separate reachable persists stored, unready⟩
  core := by
    intro name owner sought
    obtain ⟨spelled, stored⟩ := find?_of_coreHandler? sought
    obtain ⟨held, same⟩ := reachable.get?_current persists (Tables.mem_all_of_find? stored)
    have key : (store.current owner).key = coreAgent := by
      rw [Plugin.key, same.id]
      exact Tables.key_of_find? stored
    exact absurd key (separate.ordinary _ (PluginStore.mem_all_of_get? held))

theorem unhindered_of_separate (separate : Separate store) (reachable : built.Reachable)
    (persists : built.Persists store) : Unhindered (Tables.ofPlugins built).1 store := by
  intro domain name owner first stored ready isFirst
  rw [ofDomain?_of_separate separate reachable persists stored] at isFirst
  cases isFirst
  exact ready

/-- A plugin that is alone and keeps to its own domain keeps apart. -/
theorem separate_of_all_eq {plugin : Plugin} {domain : Domain} (all : store.all = [plugin])
    (ownDomain : plugin.domain = some domain)
    (keeps : ∀ declaration ∈ plugin.commands, declaration.domain = none)
    (ordinary : plugin.key ≠ coreAgent) : Separate store where
  own := by
    intro only member declaration declares other placed
    rw [all, List.mem_singleton] at member
    subst member
    rw [Plugin.addressOf, keeps declaration declares, ownDomain] at placed
    cases placed
    exact ownDomain
  alone := by
    intro first firstMember second secondMember _ _ _
    rw [all, List.mem_singleton] at firstMember secondMember
    rw [firstMember, secondMember]
  ordinary := by
    intro only member
    rw [all, List.mem_singleton] at member
    rw [member]
    exact ordinary

/-- A plugin that keeps to its own domain. -/
def archive : Plugin :=
  { Plugin.plain "Archive" [⟨"find", "", none, [], [], none⟩] fun _ =>
      .done (.ok .empty) with
    domain := some .pocket }

def switchedOff (plugin : Plugin) : Plugin := { plugin with enabled := false }

theorem persists_switchedOff (plugin : Plugin) : plugin.Persists (switchedOff plugin) :=
  ⟨rfl, rfl, rfl, rfl⟩

/-- A store that holds nothing but the plugin. -/
def archives : PluginStore := .ofList [archive]

/-- The store after the plugin has been switched off. -/
def archivesOff : PluginStore := archives.modify archive.id switchedOff

theorem reachable_archives : archives.Reachable := PluginStore.reachable_ofList [archive]

theorem reachable_archivesOff : archivesOff.Reachable :=
  .modified reachable_archives archive.id switchedOff persists_switchedOff

theorem separate_archives : Separate archives :=
  separate_of_all_eq rfl rfl (by decide) (by decide +kernel)

theorem separate_archivesOff : Separate archivesOff :=
  separate_of_all_eq rfl rfl (by decide) (by decide +kernel)

/-! ## Only those that are ready -/

theorem ready_of_domain {domain : Domain} (shielded : Shielded tables store)
    (domainIs : command.domain = some domain) (admitted : Admitted store command)
    {hit : Match} (found : match? tables command = some hit)
    (isOwner : hit.handler = .plugin owner) :
    (store.current owner).availability = .ready := by
  rw [match?, domainIs] at found
  have stored : ∃ name, Namespaces.find? tables.handlers (.domain domain) name =
      some (.plugin owner) := by
    rcases domainMatch?_eq_some found with ⟨name, _, stored, _⟩ | ⟨stored, _⟩
    · exact ⟨name, by rw [stored, isOwner]⟩
    · exact ⟨command.name, by rw [stored, isOwner]⟩
  obtain ⟨name, stored⟩ := stored
  by_cases ready : (store.current owner).availability = .ready
  · exact ready
  · obtain ⟨first, isFirst, unready⟩ := shielded.domain domain name owner stored ready
    have consults : consulted? store command = some first := by
      rw [consulted?, domainIs]
      exact isFirst
    exact absurd (admitted first consults) unready

theorem ready_of_agent (reachable : built.Reachable) (persists : built.Persists store)
    (noDomain : command.domain = none) (addressed : command.sigil = .atSign)
    (admitted : Admitted store command) {hit : Match}
    (found : match? (Tables.ofPlugins built).1 command = some hit)
    (isOwner : hit.handler = .plugin owner) :
    (store.current owner).availability = .ready := by
  obtain ⟨_, sought⟩ := handler_of_match? noDomain found
  rw [if_pos addressed, isOwner] at sought
  obtain ⟨spelled, stored⟩ := Tables.find?_of_handler? sought
  have consults : consulted? store command = some (store.current owner) := by
    rw [consulted?, noDomain]
    simp only [if_pos addressed]
    exact get?_eq_current reachable persists stored
  exact admitted _ consults

theorem ready_of_core (shielded : Shielded tables store) (noDomain : command.domain = none)
    (unaddressed : command.sigil ≠ .atSign) {hit : Match}
    (found : match? tables command = some hit) (isOwner : hit.handler = .plugin owner) :
    (store.current owner).availability = .ready := by
  obtain ⟨_, sought⟩ := handler_of_match? noDomain found
  rw [if_neg unaddressed, isOwner] at sought
  exact shielded.core command.name owner sought

theorem onlyReady_of_shielded (reachable : built.Reachable) (now : store.Reachable)
    (persists : built.Persists store) (shielded : Shielded (Tables.ofPlugins built).1 store) :
    OnlyReady (Tables.ofPlugins built).1 store := by
  intro command owner runs
  obtain ⟨admitted, ⟨hit, found, isOwner⟩ | ⟨_, consults⟩⟩ := owner?_ofCommand_iff.1 runs
  · cases domainIs : command.domain with
    | some domain => exact ready_of_domain shielded domainIs admitted found isOwner
    | none =>
        by_cases addressed : command.sigil = .atSign
        · exact ready_of_agent reachable persists domainIs addressed admitted found isOwner
        · exact ready_of_core shielded domainIs addressed found isOwner
  · -- A plugin that is asked directly is the one that was consulted.
    rw [now.current_of_mem (mem_all_of_consulted? consults)]
    exact admitted owner consults

theorem shielded_of_onlyReady (onlyReady : OnlyReady tables store) : Shielded tables store where
  domain := by
    intro domain name owner stored unready
    by_cases admitted : Admitted store (.forDomain domain name)
    · have found : match? tables (.forDomain domain name) = some ⟨.plugin owner, _⟩ :=
        match?_of_find? rfl rfl stored
      exact absurd
        (onlyReady _ owner (owner?_ofCommand_iff.2 ⟨admitted, .inl ⟨_, found, rfl⟩⟩)) unready
    · simp only [Admitted, not_forall] at admitted
      obtain ⟨first, isFirst, firstUnready⟩ := admitted
      exact ⟨first, isFirst, firstUnready⟩
  core := by
    intro name owner sought
    have admitted : Admitted store (.system name) := by
      intro plugin consults
      cases consults
    have found : match? tables (.system name) = some ⟨.plugin owner, invocation (.system name)⟩ :=
      congrArg (Option.map fun handler => (⟨handler, _⟩ : Match)) sought
    exact onlyReady _ owner (owner?_ofCommand_iff.2 ⟨admitted, .inl ⟨_, found, rfl⟩⟩)

/-- Only plugins that are ready run, just if every command of another one is shielded. -/
theorem onlyReady_iff_shielded (reachable : built.Reachable) (now : store.Reachable)
    (persists : built.Persists store) :
    OnlyReady (Tables.ofPlugins built).1 store ↔ Shielded (Tables.ofPlugins built).1 store :=
  ⟨shielded_of_onlyReady, onlyReady_of_shielded reachable now persists⟩

theorem onlyReady_iff_shielded_archive :
    OnlyReady (Tables.ofPlugins archives).1 archivesOff ∧
      (archivesOff.current archive).availability = .disabled := by
  refine ⟨?_, rfl⟩
  have persists : archives.Persists archivesOff :=
    PluginStore.persists_modify archives archive.id persists_switchedOff
  have shielded := shielded_of_separate separate_archivesOff reachable_archives persists
  exact (onlyReady_iff_shielded reachable_archives reachable_archivesOff persists).2 shielded

/-- A plugin that has not signed in and declares a command for a domain that is not its
own. -/
def notes : Plugin :=
  { Plugin.plain "Notes" [⟨"list", "", none, [], [], some .pocket⟩] fun _ =>
      .done (.ok .empty) with
    authenticated := false }

/-- The domain has no plugin that could be asked, and so the command is carried out. -/
theorem not_onlyReady_notes :
    (PluginStore.ofList [notes]).Reachable ∧
      ¬ OnlyReady (Tables.ofPlugins (.ofList [notes])).1 (.ofList [notes]) := by
  refine ⟨PluginStore.reachable_ofList [notes], ?_⟩
  intro onlyReady
  have ready := onlyReady (.forDomain .pocket "list") notes rfl
  cases ready

/-! ## All of those that are ready -/

theorem served_of_invoke (owner : Plugin) (given : Invocation) :
    Served (.invoke (.plugin owner) given) owner given where
  invoked := rfl
  accepted := fun _ _ ends => ne_unavailable_of_invoke ends

theorem admitted_of_unhindered (reachable : built.Reachable) (persists : built.Persists store)
    (unhindered : Unhindered (Tables.ofPlugins built).1 store) {address : Address}
    (placed : place? command = some address)
    (found : Namespaces.find? (Tables.ofPlugins built).1.handlers address command.name =
      some (.plugin owner))
    (ready : (store.current owner).availability = .ready) : Admitted store command := by
  intro plugin consults
  cases domainIs : command.domain with
  | some domain =>
      simp only [place?, domainIs, Option.some.injEq] at placed
      subst placed
      rw [consulted?, domainIs] at consults
      exact unhindered domain command.name owner plugin found ready consults
  | none =>
      simp only [place?, domainIs, Option.ite_none_right_eq_some, Option.some.injEq] at placed
      obtain ⟨addressed, rfl⟩ := placed
      rw [consulted?, domainIs] at consults
      simp only [if_pos addressed] at consults
      rw [get?_eq_current reachable persists found] at consults
      cases consults
      exact ready

theorem servesReady_of_unhindered (reachable : built.Reachable)
    (persists : built.Persists store)
    (unhindered : Unhindered (Tables.ofPlugins built).1 store) :
    ServesReady (Tables.ofPlugins built).1 store := by
  intro command address owner alone placed found ready
  have admitted := admitted_of_unhindered reachable persists unhindered placed found ready
  rw [ofCommand_of_admitted admitted, match?_of_find? alone placed found, route]
  exact served_of_invoke owner (invocation command)

theorem unhindered_of_servesReady (servesReady : ServesReady tables store) :
    Unhindered tables store := by
  intro domain name owner first stored ready isFirst
  have served := servesReady (.forDomain domain name) (.domain domain) owner rfl rfl stored
    ready
  have given : (ofCommand tables store (.forDomain domain name)).given? =
      some (invocation (.forDomain domain name)) := by
    rw [served.invoked]
    rfl
  exact admitted_of_given? given first isFirst

/-- The commands of all plugins that are ready are carried out, just if none of them has
commands in a domain whose first plugin is not. -/
theorem servesReady_iff_unhindered (reachable : built.Reachable)
    (persists : built.Persists store) :
    ServesReady (Tables.ofPlugins built).1 store ↔
      Unhindered (Tables.ofPlugins built).1 store :=
  ⟨unhindered_of_servesReady, servesReady_of_unhindered reachable persists⟩

theorem servesReady_iff_unhindered_archive :
    ServesReady (Tables.ofPlugins archives).1 archives ∧
      (archives.current archive).availability = .ready := by
  refine ⟨?_, rfl⟩
  have persists := PluginStore.persists_refl archives
  have unhindered := unhindered_of_separate separate_archives reachable_archives persists
  exact (servesReady_iff_unhindered reachable_archives persists).2 unhindered

/-- Of two plugins in a domain the first one is switched off, and so the commands of the
second one are refused. -/
theorem not_servesReady_archives :
    let store := PluginStore.ofList [switchedOff archive, { archive with id := "Backup" }]
    store.Reachable ∧ ¬ ServesReady (Tables.ofPlugins store).1 store := by
  refine ⟨PluginStore.reachable_ofList _, ?_⟩
  intro servesReady
  have ready := unhindered_of_servesReady servesReady .pocket "find"
    { archive with id := "Backup" } (switchedOff archive) rfl rfl rfl
  cases ready

end ChatOps.Dispatch
