import ChatOps.Proofs.Registry.Agreement

/-!
# Owners of rebuilt commands

A rebuild stores the built-in commands and then, one after another, what the plugins
declare.  A command of a plugin stands where that plugin has declared it
(`declared_of_find?`), and the commands of an agent are those of the plugin with its
identifier (`key_of_find?`).
-/

set_option autoImplicit false

namespace ChatOps.Tables

variable {tables after : Tables} {address : Address} {name : String} {handler : Handler}
  {usage : Option Usage} {declared : List (Plugin × Declaration)}

/-- Whether every command of a plugin is one of these declarations. -/
def AsDeclared (declared : List (Plugin × Declaration)) (tables : Tables) : Prop :=
  ∀ address name owner,
    Namespaces.find? tables.handlers address name = some (.plugin owner) →
      ∃ declaration, (owner, declaration) ∈ declared ∧
        owner.addressOf declaration = address ∧ declaration.name = name

theorem AsDeclared.insert? (asDeclared : AsDeclared declared tables)
    (fits : ∀ owner, handler = .plugin owner →
      ∃ declaration, (owner, declaration) ∈ declared ∧
        owner.addressOf declaration = address ∧ declaration.name = name)
    (stored : tables.insert? address name handler usage = some after) :
    AsDeclared declared after := by
  intro other sought owner found
  rw [find?_handlers_insert? stored] at found
  split at found
  · next same =>
      obtain ⟨rfl, rfl⟩ := same
      exact fits owner (Option.some.inj found)
  · exact asDeclared other sought owner found

theorem asDeclared_install (asDeclared : AsDeclared declared tables)
    (entries : List (String × Builtin × Option Usage)) :
    AsDeclared declared (tables.install entries) := by
  induction entries generalizing tables with
  | nil => exact asDeclared
  | cons entry rest inductionHypothesis =>
      rw [install_cons]
      apply inductionHypothesis
      rw [insert]
      cases stored : tables.insert? .core entry.1 (.builtin entry.2.1) entry.2.2 with
      | none => exact asDeclared
      | some after =>
          refine asDeclared.insert? ?_ stored
          intro owner isPlugin
          cases isPlugin

theorem AsDeclared.declare {state : Tables × Nat} (asDeclared : AsDeclared declared state.1)
    {entry : Plugin × Declaration} (member : entry ∈ declared) :
    AsDeclared declared (Tables.declare state entry).1 := by
  rw [Tables.declare]
  split
  · next after stored =>
      refine asDeclared.insert? ?_ stored
      intro owner isOwner
      cases isOwner
      exact ⟨entry.2, member, rfl, rfl⟩
  · exact asDeclared

theorem AsDeclared.foldl_declare {state : Tables × Nat}
    (asDeclared : AsDeclared declared state.1) {entries : List (Plugin × Declaration)}
    (among : ∀ entry ∈ entries, entry ∈ declared) :
    AsDeclared declared (entries.foldl Tables.declare state).1 := by
  induction entries generalizing state with
  | nil => exact asDeclared
  | cons entry rest inductionHypothesis =>
      have first := asDeclared.declare (among entry List.mem_cons_self)
      exact inductionHypothesis first fun later member =>
        among later (List.mem_cons_of_mem entry member)

theorem asDeclared_ofPlugins (store : PluginStore) :
    AsDeclared (declarations store.enabled) (ofPlugins store).1 := by
  have none : AsDeclared (declarations store.enabled) empty := by
    intro address name owner found
    cases found
  have atFirst : AsDeclared (declarations store.enabled) core :=
    asDeclared_install none builtins
  exact atFirst.foldl_declare fun _ member => member

variable {store : PluginStore} {owner : Plugin}

/-- A command of a plugin belongs to a plugin that is switched on and declares it. -/
theorem declared_of_find?
    (found : Namespaces.find? (ofPlugins store).1.handlers address name =
      some (.plugin owner)) :
    owner ∈ store.enabled ∧ ∃ declaration ∈ owner.commands,
      owner.addressOf declaration = address ∧ declaration.name = name := by
  obtain ⟨declaration, member, sameAddress, sameName⟩ :=
    asDeclared_ofPlugins store address name owner found
  obtain ⟨plugin, isEnabled, pair⟩ := List.mem_flatMap.1 member
  obtain ⟨own, declares, same⟩ := List.mem_map.1 pair
  cases same
  exact ⟨isEnabled, declaration, declares, sameAddress, sameName⟩

theorem mem_all_of_find?
    (found : Namespaces.find? (ofPlugins store).1.handlers address name =
      some (.plugin owner)) : owner ∈ store.all :=
  List.mem_of_mem_filter (declared_of_find? found).1

/-- The commands of an agent are those of the plugin with its identifier. -/
theorem key_of_find? {agent : String}
    (found : Namespaces.find? (ofPlugins store).1.handlers (.agent agent) name =
      some (.plugin owner)) : owner.key = agent := by
  obtain ⟨_, declaration, _, sameAddress, _⟩ := declared_of_find? found
  unfold Plugin.addressOf at sameAddress
  split at sameAddress
  · cases sameAddress
  · exact Address.agent.inj sameAddress

end ChatOps.Tables
