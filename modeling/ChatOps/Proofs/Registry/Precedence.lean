import ChatOps.Proofs.Registry.Qualified

/-!
# Registrations and what was found before

The first registration wins: no handler is ever replaced, and a pair of an address and a
name goes on to find what it found.  There is one exception.  A core name without a handler
of its own is heard as its other spelling, and a registration may give it a handler of its
own, which that name finds from then on (`handler?_register`).
-/

set_option autoImplicit false

namespace ChatOps

namespace Tables

variable {tables after : Tables} {address other : Address} {name sought : String}
  {handler older : Handler} {usage : Option Usage}

/-- Whether a pair has no handler of its own and is heard as the other spelling of its
name. -/
structure HeardOtherwise (tables : Tables) (address : Address) (name : String)
    (handler : Handler) : Prop where
  core : address = .core
  free : Namespaces.find? tables.handlers address name = none
  other : Namespaces.find? tables.handlers address (respelled name) = some handler

/-- A handler that is found stands at the pair itself, or is that of the other
spelling. -/
theorem find?_or_heardOtherwise (resolved : tables.handler? address name = some handler) :
    Namespaces.find? tables.handlers address name = some handler ∨
      tables.HeardOtherwise address name handler := by
  cases exactly : Namespaces.find? tables.handlers address name with
  | some found =>
      rw [handler?_of_find? exactly] at resolved
      exact .inl resolved
  | none =>
      right
      cases core : address.isCore with
      | false =>
          rw [handler?_of_ordinary core, exactly] at resolved
          cases resolved
      | true =>
          obtain rfl := Address.eq_core_of_isCore core
          rw [handler?_core_of_free exactly] at resolved
          exact ⟨rfl, exactly, resolved⟩

theorem HeardOtherwise.handler?_insert?
    (heard : tables.HeardOtherwise other sought older)
    (stored : tables.insert? address name handler usage = some after) :
    (address = other ∧ name = sought → after.handler? other sought = some handler) ∧
      (¬ (address = other ∧ name = sought) → after.handler? other sought = some older) := by
  have place := find?_handlers_insert? stored other sought
  constructor
  · intro same
    rw [if_pos same] at place
    exact handler?_of_find? place
  · intro apart
    rw [if_neg apart, heard.free] at place
    have kept := find?_insert?_of_some stored heard.other
    rw [heard.core] at place kept ⊢
    rw [handler?_core_of_free place, kept]

end Tables

namespace Registry

variable {registry : Registry} {address : Address} {name : String} {older : Handler}

/-- Whether a registration is for a pair that has been heard as the other spelling of its
name. -/
structure TakesOver (registry : Registry) (note : Usage) (address : Address)
    (name : String) : Prop where
  named : note.address = address ∧ note.command = name
  heard : ∃ older, registry.tables.HeardOtherwise address name older

theorem register?_refused {note : Usage} {code : Handler}
    (refused : registry.tables.insert? note.address note.command code (some note) = none) :
    (registry.register? note code).getD registry = registry := by
  rw [register?, refused]
  rfl

theorem tables_register? {note : Usage} {code : Handler} {tables : Tables}
    (stored : registry.tables.insert? note.address note.command code (some note) =
      some tables) :
    ((registry.register? note code).getD registry).tables = tables := by
  rw [register?, stored]
  rfl

/-- A pair that finds a handler finds the same one after a registration, unless it has been
heard as the other spelling of its name and is itself what is registered; then it finds the
new handler. -/
theorem handler?_register (registration : Registration) (code : Handler)
    (resolved : registry.tables.handler? address name = some older) :
    (TakesOver registry registration.usage address name →
        ((registry.register? registration.usage code).getD registry).tables.handler? address
          name = some code) ∧
      (¬ TakesOver registry registration.usage address name →
        ((registry.register? registration.usage code).getD registry).tables.handler? address
          name = some older) := by
  generalize registration.usage = note
  cases stored : registry.tables.insert? note.address note.command code (some note) with
  | none =>
      rw [register?_refused stored]
      refine ⟨?_, fun _ => resolved⟩
      rintro ⟨⟨rfl, rfl⟩, _, heard⟩
      rw [Tables.insert?_of_free heard.free] at stored
      cases stored
  | some tables =>
      rw [tables_register? stored]
      rcases Tables.find?_or_heardOtherwise resolved with exactly | heard
      · have kept := Tables.handler?_of_find? (Tables.find?_insert?_of_some stored exactly)
        refine ⟨?_, fun _ => kept⟩
        rintro ⟨_, _, heard⟩
        rw [heard.free] at exactly
        cases exactly
      · obtain ⟨taken, kept⟩ := heard.handler?_insert? stored
        refine ⟨fun takesOver => taken takesOver.named, ?_⟩
        intro spared
        exact kept fun named => spared ⟨named, older, heard⟩

theorem reachable_agents : agents.Reachable :=
  .registered (.registered (.built .empty ⟨[], none⟩) (.agent "Robot" "greet") quiet)
    (.agent "Git" "sync") quiet

/-- The list of models stands under `models` and is also found as `/models`, as long as
there is no command of that name. -/
theorem heardOtherwise_models :
    agents.tables.HeardOtherwise .core "/models" (.builtin .models) where
  core := rfl
  free := by decide +kernel
  other := reachable_agents.sound.builtin ("models", .models) (by decide)

theorem handler?_slash_models :
    agents.tables.handler? .core "/models" = some (.builtin .models) := by
  have heard := heardOtherwise_models
  rw [Tables.handler?_core_of_free heard.free, heard.other]

/-- A command for users takes `/models` over, and `models` is what it was. -/
theorem handler?_register_models :
    agents.tables.handler? .core "/models" = some (.builtin .models) ∧
      crowded.tables.handler? .core "/models" = some quiet ∧
      agents.tables.handler? .core "models" = some (.builtin .models) ∧
      crowded.tables.handler? .core "models" = some (.builtin .models) := by
  have found : agents.tables.handler? .core "models" = some (.builtin .models) :=
    Tables.handler?_of_find? (reachable_agents.sound.builtin ("models", .models) (by decide))
  have takesOver : TakesOver agents (Registration.system "models" "").usage .core "/models" :=
    ⟨by decide, _, heardOtherwise_models⟩
  have spared : ¬ TakesOver agents (Registration.system "models" "").usage .core "models" :=
    fun wrong => absurd wrong.named (by decide)
  exact ⟨handler?_slash_models,
    (handler?_register (.system "models" "") quiet handler?_slash_models).1 takesOver, found,
    (handler?_register (.system "models" "") quiet found).2 spared⟩

/-- So it is not true that every pair goes on to find what it found. -/
theorem not_handler?_kept :
    ¬ ∀ registry : Registry, registry.Reachable →
      ∀ (registration : Registration) (code : Handler) (address : Address) (name : String)
        (older : Handler), registry.tables.handler? address name = some older →
          ((registry.register? registration.usage code).getD registry).tables.handler? address
            name = some older := by
  intro kept
  have still := kept agents reachable_agents (.system "models" "") quiet .core "/models" _
    handler?_slash_models
  have taken : crowded.tables.handler? .core "/models" = some quiet :=
    Tables.handler?_of_find? find?_slash_models
  cases taken.symm.trans still

end Registry

end ChatOps
