import ChatOps.Proofs.Registry.Agreement

/-!
# Reachable registries

A registry is built from plugins, rebuilt from others, extended by registrations that
may be refused, and used by running commands.  However often and in whatever order that
happens, its handlers and its usage notes agree, and the help counts every command but
the one it does not list.
-/

set_option autoImplicit false

namespace ChatOps.Registry

inductive Reachable : Registry → Prop where
  | built (store : PluginStore) (models : ModelChoice) : Reachable (ofPlugins store models)
  | refreshed {registry : Registry} (before : Reachable registry) (store : PluginStore) :
      Reachable (registry.refresh store)
  | registered {registry : Registry} (before : Reachable registry)
      (registration : Registration) (handler : Handler) :
      Reachable ((registry.register? registration.usage handler).getD registry)
  | called {registry : Registry} (before : Reachable registry) (handler : Handler)
      (given : Invocation) : Reachable (registry.call handler given).1

variable {registry : Registry}

theorem tables_call (handler : Handler) (given : Invocation) :
    (registry.call handler given).1.tables = registry.tables := by
  cases handler <;> rfl

theorem sound_register (sound : registry.tables.Sound) (note : Usage) (handler : Handler) :
    ((registry.register? note handler).getD registry).tables.Sound := by
  rw [register?]
  cases stored : registry.tables.insert? note.address note.command handler (some note) with
  | none => exact sound
  | some after => exact sound.insert? note stored

theorem Reachable.sound (reachable : Reachable registry) : registry.tables.Sound := by
  induction reachable with
  | built store models => exact Tables.sound_ofPlugins store
  | refreshed before store inductionHypothesis => exact Tables.sound_ofPlugins store
  | registered before registration handler inductionHypothesis =>
      exact sound_register inductionHypothesis registration.usage handler
  | called before handler given inductionHypothesis =>
      rw [tables_call]
      exact inductionHypothesis

/-- What is promised of a registry: its tables are sound, its handlers are one more than
its usage notes, the usage notes name every registered command but one, and no command
twice, and the help lists and counts exactly them. -/
structure Consistent (registry : Registry) : Prop where
  sound : registry.tables.Sound
  counted : registry.tables.handlerCount = registry.tables.allUsages.length + 1
  once : (registry.tables.allUsages.map Tables.notedPlace).Nodup
  listed : ∀ address name,
    (address, name) ∈ registry.tables.allUsages.map Tables.notedPlace ↔
      (Namespaces.find? registry.tables.handlers address name).isSome = true ∧
        (address, name) ≠ Tables.unlisted
  help : ∀ given : Invocation, ∃ reply : Reply,
    registry.call (.builtin .help) given = (registry, .done (.ok (.reply reply))) ∧
      reply.message =
        some (Builtin.helpText "## Available commands" registry.tables.allUsages) ∧
      reply.data =
        some (Json.ofMembers [("commands", Json.ofNat (registry.tables.handlerCount - 1))])

theorem consistent_of_reachable (reachable : Reachable registry) : Consistent registry where
  sound := reachable.sound
  counted := reachable.sound.handlerCount_eq
  once := by
    rw [reachable.sound.map_notedPlace]
    exact Namespaces.nodup_places _
  listed := by
    intro address name
    rw [reachable.sound.map_notedPlace, Namespaces.mem_places_iff]
    exact reachable.sound.noted address name
  help := by
    intro given
    refine ⟨Builtin.helpReply "## Available commands" registry.tables.allUsages, rfl, rfl, ?_⟩
    rw [reachable.sound.handlerCount_eq, Nat.add_sub_cancel]
    rfl

/-- A registration for an agent is accepted, and another one is refused because the place
belongs to a built-in command. -/
theorem consistent_greeting :
    let fresh := ofPlugins .empty ⟨[], none⟩
    let code : Handler := .custom fun _ => .done (.ok .empty)
    let greeting := (Registration.agent "Robot " "greet").usage
    let taken := (Registration.agent "CORE" "help").usage
    let greeted := (fresh.register? greeting code).getD fresh
    Consistent ((greeted.register? taken code).getD greeted) ∧
      greeted.tables.handlerCount = 7 ∧ (greeted.register? taken code).isNone = true := by
  refine ⟨consistent_of_reachable (.registered (.registered (.built _ _) _ _) _ _), ?_, ?_⟩
  · decide +kernel
  · decide +kernel

end ChatOps.Registry
