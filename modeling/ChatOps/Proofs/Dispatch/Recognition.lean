import ChatOps.Proofs.Dispatch.Choice
import ChatOps.Proofs.Registry.Canonical
import ChatOps.Proofs.Registry.Precedence

/-!
# Plugins and the names they are given

A plugin whose commands have fixed code looks for the code by the name that it is given,
and that is the name which was asked for, not the one under which its handler was found.
Outside of the core the two are the same.  There a name is also found under its other
spelling, and a plugin that calls itself by the name of the core is told that spelling,
which it need not know.  So every plugin knows the names it is given just if such a plugin
declares its core commands in both spellings (`recognises_iff_bothSpelled`).
-/

set_option autoImplicit false

namespace ChatOps

/-! ## Fixed code -/

namespace Plugin

/-- Whether a plugin declares a command of this name. -/
def Declares (plugin : Plugin) (name : String) : Prop :=
  ∃ declaration ∈ plugin.commands, declaration.name = name

/-- Whether the commands of a plugin have fixed code. -/
def IsStatic (plugin : Plugin) : Prop :=
  ∃ commands, plugin.commands = commands.map Prod.fst ∧
    plugin.run = runDeclared plugin.id commands

theorem isStatic_ofCommands (id : String) (commands : List (Declaration × HandlerCode)) :
    (ofCommands id commands).IsStatic :=
  ⟨commands, rfl, rfl⟩

theorem IsStatic.ne_unsupported {plugin : Plugin} (static : plugin.IsStatic)
    {given : Invocation} (declares : plugin.Declares given.command) {outcome : PluginOutcome}
    (ends : (plugin.run given).Ends outcome) (id name : String) :
    outcome ≠ .error (.unsupported id name) := by
  obtain ⟨commands, declared, code⟩ := static
  obtain ⟨declaration, among, named⟩ := declares
  rw [declared] at among
  obtain ⟨entry, member, rfl⟩ := List.mem_map.1 among
  rw [code, runDeclared] at ends
  cases found : commands.find? fun entry => entry.1.name == given.command with
  | none => exact absurd (beq_iff_eq.2 named) (List.find?_eq_none.1 found entry member)
  | some first =>
      rw [found] at ends
      obtain ⟨inner, _, rfl⟩ := ends.of_map
      cases inner <;> exact nofun

end Plugin

namespace Dispatch

/-! ## Recognition -/

/-- Whether a plugin declares the command that it is given, and never answers that it does
not support it. -/
structure Knows (owner : Plugin) (given : Invocation) : Prop where
  declares : owner.Declares given.command
  supports : ∀ outcome, (owner.run given).Ends outcome →
    ∀ id name, outcome ≠ .error (.unsupported id name)

/-- Whether every plugin knows what it is given, if its handler is found for a text by the
registry, or for a command by the dispatch. -/
structure Recognises (tables : Tables) (store : PluginStore) : Prop where
  byText : ∀ (registry : Registry) full owner, registry.tables = tables →
    Registry.Reaches registry full (.plugin owner) →
      ∀ args flags, Knows owner ⟨(Registry.resolve full).2, args, flags, .empty⟩
  byCommand : ∀ command owner given,
    ofCommand tables store command = .invoke (.plugin owner) given → Knows owner given

/-- Whether plugins declare their core commands in both spellings.  The spelling with a slash
may be left out where another handler has it. -/
structure BothSpelled (tables : Tables) : Prop where
  bare : ∀ name owner,
    Namespaces.find? tables.handlers .core ("/" ++ name) = some (.plugin owner) →
      owner.Declares name
  slashed : ∀ name owner,
    Namespaces.find? tables.handlers .core name = some (.plugin owner) →
      Namespaces.find? tables.handlers .core ("/" ++ name) = none →
        owner.Declares ("/" ++ name)

variable {built store : PluginStore} {tables : Tables} {address : Address} {name : String}
  {owner : Plugin} {command : Command} {given : Invocation}

theorem declares_of_find?
    (found : Namespaces.find? (Tables.ofPlugins built).1.handlers address name =
      some (.plugin owner)) : owner.Declares name := by
  obtain ⟨_, declaration, declares, _, named⟩ := Tables.declared_of_find? found
  exact ⟨declaration, declares, named⟩

theorem eq_of_find?_agent (reachable : built.Reachable) {agent first second : String}
    {other : Plugin}
    (found : Namespaces.find? (Tables.ofPlugins built).1.handlers (.agent agent) first =
      some (.plugin owner))
    (otherFound : Namespaces.find? (Tables.ofPlugins built).1.handlers (.agent agent) second =
      some (.plugin other)) : owner = other := by
  have held := reachable.get?_eq_some_iff.2
    ⟨Tables.mem_all_of_find? found, Tables.key_of_find? found⟩
  have otherHeld := reachable.get?_eq_some_iff.2
    ⟨Tables.mem_all_of_find? otherFound, Tables.key_of_find? otherFound⟩
  exact Option.some.inj (held.symm.trans otherHeld)

/-! ## Names that are found -/

theorem respelled_cases (name : String) :
    (∃ bare, name = "/" ++ bare ∧ Tables.respelled name = bare) ∨
      Tables.respelled name = "/" ++ name := by
  rw [Tables.respelled]
  split
  · next bare shape =>
      refine .inl ⟨String.ofList bare, ?_, rfl⟩
      rw [← String.toList_inj, shape]
      simp
  · exact .inr rfl

theorem declares_of_handler? (bothSpelled : BothSpelled (Tables.ofPlugins built).1)
    (sought : (Tables.ofPlugins built).1.handler? address name = some (.plugin owner)) :
    owner.Declares name := by
  rcases Tables.find?_or_heardOtherwise sought with found | ⟨rfl, free, other⟩
  · exact declares_of_find? found
  · -- What is heard otherwise lacks a slash, or has one too many.
    rcases respelled_cases name with ⟨bare, rfl, isBare⟩ | isSlashed
    · rw [isBare] at other
      exact bothSpelled.slashed bare owner other free
    · rw [isSlashed] at other
      exact bothSpelled.bare name owner other

theorem declares_of_coreHandler? (bothSpelled : BothSpelled (Tables.ofPlugins built).1)
    (sought : coreHandler? (Tables.ofPlugins built).1 name = some (.plugin owner)) :
    owner.Declares name := by
  unfold coreHandler? at sought
  split at sought
  · next slashed =>
      rw [sought] at slashed
      rcases Tables.find?_or_heardOtherwise slashed with found | ⟨_, _, other⟩
      · exact bothSpelled.bare name owner found
      · rw [Registry.respelled_slash] at other
        exact declares_of_find? other
  · exact declares_of_handler? bothSpelled sought

/-- Whatever a command looks like, what is given to a plugin for it has a name that the plugin
declares. -/
theorem declares_of_match? (bothSpelled : BothSpelled (Tables.ofPlugins built).1)
    (found : match? (Tables.ofPlugins built).1 command = some ⟨.plugin owner, given⟩) :
    owner.Declares given.command := by
  cases domainIs : command.domain with
  | some domain =>
      rw [match?, domainIs] at found
      rcases domainMatch?_eq_some found with ⟨name, _, stored, rfl⟩ | ⟨stored, rfl⟩
      · exact declares_of_find? stored
      · have sameName : (invocationWithSub command).command = command.name := by
          rw [invocationWithSub]
          split <;> rfl
        rw [sameName]
        exact declares_of_find? stored
  | none =>
      obtain ⟨rfl, sought⟩ := handler_of_match? domainIs found
      split at sought
      · exact declares_of_handler? bothSpelled sought
      · exact declares_of_coreHandler? bothSpelled sought

theorem knows_of_declares (static : ∀ plugin ∈ built.all, plugin.IsStatic)
    (member : owner ∈ built.all) (declares : owner.Declares given.command) :
    Knows owner given where
  declares := declares
  supports := fun _ ends => (static owner member).ne_unsupported declares ends

theorem recognises_of_bothSpelled (static : ∀ plugin ∈ built.all, plugin.IsStatic)
    (bothSpelled : BothSpelled (Tables.ofPlugins built).1) :
    Recognises (Tables.ofPlugins built).1 store where
  byText := by
    intro registry full owner sameTables reaches args flags
    have sought := reaches.found
    rw [Registry.found?, sameTables] at sought
    obtain ⟨_, found⟩ := Tables.find?_of_handler? sought
    exact knows_of_declares static (Tables.mem_all_of_find? found)
      (declares_of_handler? bothSpelled sought)
  byCommand := by
    intro command owner given invoked
    have matched := match?_of_invoke invoked
    obtain ⟨_, _, found⟩ := find?_of_match? matched
    exact knows_of_declares static (Tables.mem_all_of_find? found)
      (declares_of_match? bothSpelled matched)

/-! ## Names that are not known -/

theorem ofCommand_system {handler : Handler} (sought : coreHandler? tables name = some handler) :
    ofCommand tables store (.system name) =
      .invoke handler (invocation (.system name)) := by
  have isCore : ofCommand tables store (.system name) = ofCore tables (.system name) := rfl
  have sameName : (Command.system name).name = name := rfl
  rw [isCore, ofCore, sameName, sought]

theorem not_isBuiltin_slashed (address : Address) (name : String) :
    ¬ Tables.IsBuiltin address ("/" ++ ("/" ++ name)) := by
  rintro ⟨_, member⟩
  have single : ∀ name ∈ Tables.builtins.map Prod.fst,
      name.toList.take 2 ≠ ['/', '/'] := by
    decide +kernel
  exact single _ member (by simp)

theorem plugin_or_free (reachable : built.Reachable)
    (notBuiltin : ¬ Tables.IsBuiltin address name) :
    (∃ owner, Namespaces.find? (Tables.ofPlugins built).1.handlers address name =
        some (.plugin owner)) ∨
      Namespaces.find? (Tables.ofPlugins built).1.handlers address name = none := by
  have canonical := Tables.canonical_ofPlugins reachable
  by_cases declared : ∃ plugin ∈ built.all, plugin.enabled = true ∧
      (plugin.declaration? address name).isSome = true
  · obtain ⟨plugin, member, isEnabled, declares⟩ := declared
    obtain ⟨owner, _, _, stored, _⟩ :=
      canonical.owned address name notBuiltin plugin member isEnabled declares
    exact .inl ⟨owner, stored⟩
  · refine .inr (canonical.vacant address name notBuiltin ?_).1
    intro plugin member isEnabled
    exact Option.not_isSome_iff_eq_none.1 fun declares =>
      declared ⟨plugin, member, isEnabled, declares⟩

/-- Where nothing stands under the spelling with a slash, that spelling still leads to the
plugin. -/
theorem coreHandler?_slashed (reachable : built.Reachable)
    (found : Namespaces.find? (Tables.ofPlugins built).1.handlers .core name =
      some (.plugin owner))
    (free : Namespaces.find? (Tables.ofPlugins built).1.handlers .core ("/" ++ name) = none) :
    coreHandler? (Tables.ofPlugins built).1 ("/" ++ name) = some (.plugin owner) := by
  have respelled : (Tables.ofPlugins built).1.handler? .core ("/" ++ name) =
      some (.plugin owner) := by
    rw [Tables.handler?_core_of_free free, Registry.respelled_slash]
    exact found
  rw [coreHandler?]
  -- The dispatch puts one more slash in front first.
  rcases plugin_or_free reachable (not_isBuiltin_slashed .core name) with
    ⟨other, otherFound⟩ | twiceFree
  · rw [Tables.handler?_of_find? otherFound, eq_of_find?_agent reachable found otherFound]
  · rw [Tables.handler?_core_of_free twiceFree, Registry.respelled_slash, free]
    exact respelled

theorem bothSpelled_of_recognises (reachable : built.Reachable)
    (recognises : Recognises (Tables.ofPlugins built).1 store) :
    BothSpelled (Tables.ofPlugins built).1 where
  bare := by
    intro name owner found
    have sought : coreHandler? (Tables.ofPlugins built).1 name = some (.plugin owner) := by
      rw [coreHandler?, Tables.handler?_of_find? found]
    exact (recognises.byCommand _ owner _ (ofCommand_system sought)).declares
  slashed := by
    intro name owner found free
    have sought := coreHandler?_slashed reachable found free
    exact (recognises.byCommand _ owner _ (ofCommand_system sought)).declares

/-- In rebuilt tables every plugin knows what it is given, just if core commands of plugins
are declared in both spellings. -/
theorem recognises_iff_bothSpelled (reachable : built.Reachable)
    (static : ∀ plugin ∈ built.all, plugin.IsStatic) :
    Recognises (Tables.ofPlugins built).1 store ↔ BothSpelled (Tables.ofPlugins built).1 :=
  ⟨bothSpelled_of_recognises reachable, recognises_of_bothSpelled static⟩

/-- Where no plugin calls itself by the name of the core, there is nothing to be declared
twice. -/
theorem bothSpelled_of_ordinary (ordinary : ∀ plugin ∈ built.all, plugin.key ≠ coreAgent) :
    BothSpelled (Tables.ofPlugins built).1 where
  bare := fun _ owner found =>
    absurd (Tables.key_of_find? found) (ordinary owner (Tables.mem_all_of_find? found))
  slashed := fun _ owner found =>
    absurd (Tables.key_of_find? found) (ordinary owner (Tables.mem_all_of_find? found))

/-- A plugin that calls itself by the name of the core, with one command. -/
def greeter (name : String) : Plugin :=
  .ofCommands "core" [(⟨name, "", none, [], [], none⟩, fun _ => .done (.ok (.text "hello")))]

def greeters (name : String) : PluginStore := .ofList [greeter name]

theorem isStatic_greeters (name : String) : ∀ plugin ∈ (greeters name).all, plugin.IsStatic := by
  intro plugin member
  obtain rfl := List.mem_singleton.1 (show plugin ∈ [greeter name] from member)
  exact Plugin.isStatic_ofCommands _ _

/-- The only command is one whose spelling with a slash is a built-in one. -/
theorem recognises_iff_bothSpelled_help :
    (greeters "help:at").Reachable ∧ (∀ plugin ∈ (greeters "help:at").all, plugin.IsStatic) ∧
      Namespaces.find? (Tables.ofPlugins (greeters "help:at")).1.handlers .core "help:at" =
        some (.plugin (greeter "help:at")) ∧
      Recognises (Tables.ofPlugins (greeters "help:at")).1 (greeters "help:at") := by
  have reachable : (greeters "help:at").Reachable := PluginStore.reachable_ofList _
  have static := isStatic_greeters "help:at"
  have isOnly : ∀ name owner,
      Namespaces.find? (Tables.ofPlugins (greeters "help:at")).1.handlers .core name =
        some (.plugin owner) → name = "help:at" := by
    intro name owner found
    obtain ⟨isEnabled, declaration, declares, _, rfl⟩ := Tables.declared_of_find? found
    obtain rfl := List.mem_singleton.1 (show owner ∈ [greeter "help:at"] from isEnabled)
    obtain rfl := List.mem_singleton.1 declares
    rfl
  have bothSpelled : BothSpelled (Tables.ofPlugins (greeters "help:at")).1 := by
    constructor
    case bare =>
      intro name owner found
      have shape := congrArg (fun text => text.toList.head?) (isOnly _ owner found)
      simp at shape
    case slashed =>
      intro name owner found free
      rw [isOnly name owner found] at free
      have taken := (Tables.sound_ofPlugins (greeters "help:at")).builtin
        ("/help:at", .addressedHelp) (by decide)
      cases free.symm.trans taken
  exact ⟨reachable, static, rfl, (recognises_iff_bothSpelled reachable static).2 bothSpelled⟩

/-- A plugin is asked for its only command under a name that it does not declare. -/
theorem not_recognises_greet :
    (greeters "/greet").Reachable ∧ (∀ plugin ∈ (greeters "/greet").all, plugin.IsStatic) ∧
      ¬ Recognises (Tables.ofPlugins (greeters "/greet")).1 (greeters "/greet") := by
  refine ⟨PluginStore.reachable_ofList _, isStatic_greeters "/greet", ?_⟩
  intro recognises
  obtain ⟨declaration, declares, named⟩ :=
    (recognises.byCommand (.system "greet") (greeter "/greet") _ rfl).declares
  obtain rfl := List.mem_singleton.1 declares
  exact absurd named (by decide)

end Dispatch

end ChatOps
