import ChatOps.Proofs.Plugin.Store
import ChatOps.Proofs.Registry.Rebuild

/-!
# What a rebuild stores

A rebuild goes through the plugins in the order of their identifiers and through what each
declares, and the first declaration for a place has it.  So the tables are determined by
which plugins there are: a place belongs to a built-in command, or else to the plugin with
the least identifier among those that declare it (`canonical_ofPlugins`).  The order in
which plugins were taken in, and what the tables were before, do not matter
(`rebuilt_of_perm`).
-/

set_option autoImplicit false

namespace ChatOps

/-- The first declaration of a plugin for a place. -/
def Plugin.declaration? (plugin : Plugin) (address : Address) (name : String) :
    Option Declaration :=
  plugin.commands.find? fun declared =>
    decide (plugin.addressOf declared = address ∧ declared.name = name)

namespace Tables

/-- Whether a place belongs to a built-in command. -/
def IsBuiltin (address : Address) (name : String) : Prop :=
  address = .core ∧ name ∈ builtins.map Prod.fst

/-- Whether a plugin has a place by this declaration: it is switched on, this is its first
declaration for the place, and no plugin with a lesser identifier has one. -/
structure Owns (plugins : List Plugin) (address : Address) (name : String) (owner : Plugin)
    (declared : Declaration) : Prop where
  member : owner ∈ plugins
  enabled : owner.enabled = true
  first : owner.declaration? address name = some declared
  least : ∀ other ∈ plugins, other.enabled = true →
    (other.declaration? address name).isSome = true →
      (compare owner.key other.key).isLE = true

/-- Whether tables hold the built-in commands, at every other place what the plugin that
has it declares, and nothing else. -/
structure Canonical (plugins : List Plugin) (tables : Tables) : Prop where
  builtin : ∀ entry ∈ builtins,
    Namespaces.find? tables.handlers .core entry.1 = some (.builtin entry.2.1) ∧
      Namespaces.find? tables.usages .core entry.1 = entry.2.2
  owned : ∀ address name, ¬ IsBuiltin address name → ∀ plugin ∈ plugins,
    plugin.enabled = true → (plugin.declaration? address name).isSome = true →
      ∃ owner declared, Owns plugins address name owner declared ∧
        Namespaces.find? tables.handlers address name = some (.plugin owner) ∧
        Namespaces.find? tables.usages address name = some (declared.usage address)
  vacant : ∀ address name, ¬ IsBuiltin address name →
    (∀ plugin ∈ plugins, plugin.enabled = true → plugin.declaration? address name = none) →
      Namespaces.find? tables.handlers address name = none ∧
        Namespaces.find? tables.usages address name = none

/-! ## Entries -/

/-- What is stored at a place, with its usage note. -/
def stored? (tables : Tables) (address : Address) (name : String) :
    Option (Handler × Option Usage) :=
  (Namespaces.find? tables.handlers address name).map fun handler =>
    (handler, Namespaces.find? tables.usages address name)

/-- What a declaration has to store at a place. -/
def offer (address : Address) (name : String) (entry : Plugin × Declaration) :
    Option (Handler × Option Usage) :=
  if entry.1.addressOf entry.2 = address ∧ entry.2.name = name then
    some (.plugin entry.1, some (entry.2.usage address))
  else none

variable {tables after : Tables} {address : Address} {name : String} {handler : Handler}
  {usage : Option Usage}

theorem find?_usages_insert? {note : Usage}
    (stored : tables.insert? address name handler (some note) = some after) (other : Address)
    (sought : String) :
    Namespaces.find? after.usages other sought =
      if address = other ∧ name = sought then some note
      else Namespaces.find? tables.usages other sought := by
  rw [insert?_of_free (free_of_insert? stored)] at stored
  cases stored
  exact Namespaces.find?_put ..

theorem stored?_insert? {note : Usage}
    (stored : tables.insert? address name handler (some note) = some after) (other : Address)
    (sought : String) :
    after.stored? other sought =
      if address = other ∧ name = sought then some (handler, some note)
      else tables.stored? other sought := by
  rw [stored?, find?_handlers_insert? stored, find?_usages_insert? stored]
  split
  · rfl
  · rfl

/-- A declaration has a place if nothing is stored there. -/
theorem stored?_declare (state : Tables × Nat) (entry : Plugin × Declaration)
    (address : Address) (name : String) :
    (declare state entry).1.stored? address name =
      (state.1.stored? address name).or (offer address name entry) := by
  rw [declare, offer]
  cases placed : state.1.insert? (entry.1.addressOf entry.2) entry.2.name (.plugin entry.1)
      (some (entry.2.usage (entry.1.addressOf entry.2))) with
  | some after =>
      simp only [stored?_insert? placed]
      split
      · next same =>
          obtain ⟨rfl, rfl⟩ := same
          rw [stored?, free_of_insert? placed]
          rfl
      · exact (Option.or_none).symm
  | none =>
      -- The place of the declaration is taken, and keeps what is stored there.
      by_cases same : entry.1.addressOf entry.2 = address ∧ entry.2.name = name
      · obtain ⟨rfl, rfl⟩ := same
        cases found : Namespaces.find? state.1.handlers (entry.1.addressOf entry.2)
            entry.2.name with
        | none =>
            rw [insert?_of_free found] at placed
            cases placed
        | some handler => simp [stored?, found]
      · rw [if_neg same, Option.or_none]

theorem stored?_foldl_declare (state : Tables × Nat) (entries : List (Plugin × Declaration))
    (address : Address) (name : String) :
    (entries.foldl declare state).1.stored? address name =
      (state.1.stored? address name).or (entries.findSome? (offer address name)) := by
  induction entries generalizing state with
  | nil => exact (Option.or_none).symm
  | cons entry rest inductionHypothesis =>
      rw [List.foldl_cons, inductionHypothesis, stored?_declare, List.findSome?_cons]
      cases offer address name entry with
      | none => rw [Option.or_none]
      | some found => cases state.1.stored? address name <;> rfl

/-! ## Declarations -/

/-- What a plugin has to store at a place. -/
def claim (address : Address) (name : String) (plugin : Plugin) :
    Option (Handler × Option Usage) :=
  (plugin.declaration? address name).map fun declared =>
    (.plugin plugin, some (declared.usage address))

theorem findSome?_offer (plugin : Plugin) (commands : List Declaration) (address : Address)
    (name : String) :
    (commands.map fun declared => (plugin, declared)).findSome? (offer address name) =
      (commands.find? fun declared =>
        decide (plugin.addressOf declared = address ∧ declared.name = name)).map
          fun declared => (.plugin plugin, some (declared.usage address)) := by
  induction commands with
  | nil => rfl
  | cons declared rest inductionHypothesis =>
      rw [List.map_cons, List.findSome?_cons, List.find?_cons, inductionHypothesis, offer]
      by_cases stands : plugin.addressOf declared = address ∧ declared.name = name
      · simp [stands]
      · simp [stands]

theorem findSome?_declarations (plugins : List Plugin) (address : Address) (name : String) :
    (declarations plugins).findSome? (offer address name) =
      plugins.findSome? (claim address name) := by
  induction plugins with
  | nil => rfl
  | cons plugin rest inductionHypothesis =>
      rw [declarations, List.flatMap_cons, List.findSome?_append, findSome?_offer,
        List.findSome?_cons, ← inductionHypothesis]
      change (claim address name plugin).or _ = _
      cases claim address name plugin <;> rfl

/-- A rebuild asks the built-in commands first and then the plugins that are switched on,
in the order of their identifiers. -/
theorem stored?_ofPlugins (store : PluginStore) (address : Address) (name : String) :
    (ofPlugins store).1.stored? address name =
      (core.stored? address name).or (store.enabled.findSome? (claim address name)) := by
  rw [ofPlugins, stored?_foldl_declare, findSome?_declarations]

/-! ## The built-in commands -/

theorem stored?_core {entry : String × Builtin × Option Usage} (member : entry ∈ builtins) :
    core.stored? .core entry.1 = some (.builtin entry.2.1, entry.2.2) := by
  have isName : (entry.1, entry.2.1) ∈ builtinNames := by
    rw [builtinNames_eq]
    exact List.mem_map.2 ⟨entry, member, rfl⟩
  have noted : ∀ entry ∈ builtins, Namespaces.find? core.usages .core entry.1 = entry.2.2 := by
    decide +kernel
  rw [stored?, sound_core.builtin _ isName, Option.map_some, noted entry member]

/-- At first nothing but the built-in commands is stored. -/
theorem stored?_core_of_not_isBuiltin (notBuiltin : ¬ IsBuiltin address name) :
    core.stored? address name = none := by
  have onlyBuiltins : ∀ place ∈ Namespaces.places core.handlers,
      place.1 = .core ∧ place.2 ∈ builtins.map Prod.fst := by
    decide +kernel
  rw [stored?, Option.map_eq_none_iff]
  by_contra found
  have isPlace : (address, name) ∈ Namespaces.places core.handlers :=
    Namespaces.mem_places_iff.2 (Option.isSome_iff_ne_none.2 found)
  exact notBuiltin (onlyBuiltins _ isPlace)

/-! ## The least plugin -/

/-- If plugins are listed in the order of their identifiers, the first one that declares
something for a place has it. -/
theorem findSome?_claim {store : PluginStore} (reachable : store.Reachable) {plugin : Plugin}
    (member : plugin ∈ store.all) (isEnabled : plugin.enabled = true)
    (declares : (plugin.declaration? address name).isSome = true) :
    ∃ owner declared, Owns store.all address name owner declared ∧
      store.enabled.findSome? (claim address name) =
        some (.plugin owner, some (declared.usage address)) := by
  have someClaim : (store.enabled.findSome? (claim address name)).isSome = true := by
    rw [List.findSome?_isSome_iff]
    exact ⟨plugin, List.mem_filter.2 ⟨member, isEnabled⟩, by rwa [claim, Option.isSome_map]⟩
  obtain ⟨found, first⟩ := Option.isSome_iff_exists.1 someClaim
  obtain ⟨earlier, owner, later, listed, claimed, none⟩ := List.findSome?_eq_some_iff.1 first
  obtain ⟨declared, isFirst, rfl⟩ := Option.map_eq_some_iff.1 claimed
  have ownerMember : owner ∈ store.enabled := by simp [listed]
  obtain ⟨among, ownerEnabled⟩ := List.mem_filter.1 ownerMember
  refine ⟨owner, declared, ⟨among, ownerEnabled, isFirst, ?_⟩, first⟩
  intro other otherMember otherEnabled otherDeclares
  have isListed : other ∈ store.enabled := List.mem_filter.2 ⟨otherMember, otherEnabled⟩
  have sorted := reachable.sorted.filter Plugin.enabled
  change store.enabled.Pairwise _ at sorted
  rw [listed] at isListed sorted
  rcases List.mem_append.1 isListed with before | notBefore
  · have unclaimed := none other before
    rw [claim, Option.map_eq_none_iff] at unclaimed
    rw [unclaimed] at otherDeclares
    cases otherDeclares
  · rcases List.mem_cons.1 notBefore with rfl | after
    · rw [Std.ReflOrd.compare_self]
      rfl
    · rw [(List.pairwise_cons.1 (List.pairwise_append.1 sorted).2.1).1 other after]
      rfl

/-! ## Rebuilding -/

theorem canonical_ofPlugins {store : PluginStore} (reachable : store.Reachable) :
    Canonical store.all (ofPlugins store).1 := by
  have found {address : Address} {name : String} {handler : Handler} {usage : Option Usage}
      (stored : (ofPlugins store).1.stored? address name = some (handler, usage)) :
      Namespaces.find? (ofPlugins store).1.handlers address name = some handler ∧
        Namespaces.find? (ofPlugins store).1.usages address name = usage := by
    obtain ⟨_, isHandler, pair⟩ := Option.map_eq_some_iff.1 stored
    cases pair
    exact ⟨isHandler, rfl⟩
  constructor
  case builtin =>
    intro entry member
    apply found
    rw [stored?_ofPlugins, stored?_core member, Option.some_or]
  case owned =>
    intro address name notBuiltin plugin member isEnabled declares
    obtain ⟨owner, declared, owns, first⟩ :=
      findSome?_claim reachable member isEnabled declares
    refine ⟨owner, declared, owns, found ?_⟩
    rw [stored?_ofPlugins, stored?_core_of_not_isBuiltin notBuiltin, first, Option.none_or]
  case vacant =>
    intro address name notBuiltin unclaimed
    have stored : (ofPlugins store).1.stored? address name = none := by
      rw [stored?_ofPlugins, stored?_core_of_not_isBuiltin notBuiltin, Option.none_or,
        List.findSome?_eq_none_iff]
      intro owner member
      obtain ⟨among, isEnabled⟩ := List.mem_filter.1 member
      rw [claim, unclaimed owner among isEnabled, Option.map_none]
    have free := Option.map_eq_none_iff.1 stored
    refine ⟨free, Option.not_isSome_iff_eq_none.1 fun noted => ?_⟩
    have taken := ((sound_ofPlugins store).noted address name).1 noted
    rw [free] at taken
    cases taken.1

/-- The order in which plugins are listed does not matter. -/
theorem Canonical.of_perm {plugins others : List Plugin} (canonical : Canonical plugins tables)
    (same : plugins.Perm others) : Canonical others tables where
  builtin := canonical.builtin
  owned := by
    intro address name notBuiltin plugin member isEnabled declares
    obtain ⟨owner, declared, owns, stored⟩ := canonical.owned address name notBuiltin plugin
      (same.mem_iff.2 member) isEnabled declares
    exact ⟨owner, declared, ⟨same.mem_iff.1 owns.member, owns.enabled, owns.first,
      fun other otherMember => owns.least other (same.mem_iff.2 otherMember)⟩, stored⟩
  vacant := by
    intro address name notBuiltin unclaimed
    exact canonical.vacant address name notBuiltin fun owner member =>
      unclaimed owner (same.mem_iff.1 member)

/-! ## Counting -/

theorem handlerCount_insert? (stored : tables.insert? address name handler usage = some after) :
    after.handlerCount = tables.handlerCount + 1 := by
  have free := free_of_insert? stored
  rw [insert?_of_free free] at stored
  cases stored
  exact Namespaces.length_all_put free handler

/-- What is stored and what is counted grow together. -/
theorem handlerCount_declare (state : Tables × Nat) (entry : Plugin × Declaration) :
    (declare state entry).1.handlerCount + state.2 =
      state.1.handlerCount + (declare state entry).2 := by
  rw [declare]
  cases placed : state.1.insert? (entry.1.addressOf entry.2) entry.2.name (.plugin entry.1)
      (some (entry.2.usage (entry.1.addressOf entry.2))) with
  | none => rfl
  | some after =>
      have larger := handlerCount_insert? placed
      simp only [larger]
      omega

theorem handlerCount_foldl_declare (state : Tables × Nat)
    (entries : List (Plugin × Declaration)) :
    (entries.foldl declare state).1.handlerCount + state.2 =
      state.1.handlerCount + (entries.foldl declare state).2 := by
  induction entries generalizing state with
  | nil => rfl
  | cons entry rest inductionHypothesis =>
      have first := handlerCount_declare state entry
      have later := inductionHypothesis (declare state entry)
      rw [List.foldl_cons]
      omega

theorem handlerCount_core : core.handlerCount = builtins.length := by decide +kernel

/-- A rebuild counts the commands that it stores beside the built-in ones. -/
theorem handlerCount_ofPlugins (store : PluginStore) :
    (ofPlugins store).1.handlerCount = (ofPlugins store).2 + builtins.length := by
  have counted := handlerCount_foldl_declare (core, 0) (declarations store.enabled)
  rw [handlerCount_core, Nat.add_zero, Nat.add_comm] at counted
  exact counted

end Tables

namespace Registry

/-- Whatever registry is rebuilt, and in whatever order plugins that are told apart were
taken in, the tables are those that are due to the plugins, and the number that is announced
is that of the commands beside the built-in ones.  Every other rebuild from the same plugins
publishes the same tables and announces the same number. -/
theorem rebuilt_of_perm {plugins order : List Plugin}
    (distinct : (plugins.map Plugin.key).Nodup) (taken : order.Perm plugins)
    (registry : Registry) :
    let store := PluginStore.ofList order
    let rebuilt := registry.refresh store
    store.all.Perm plugins ∧
      Tables.Canonical plugins rebuilt.tables ∧
      rebuilt.tables.handlerCount = refreshCount store + 6 ∧
      rebuilt.feed = registry.feed.push (.rebuilt (refreshCount store)) ∧
      (rebuilt.refresh store).tables = rebuilt.tables ∧
      ∀ (other : Registry) (otherStore : PluginStore),
        otherStore.Reachable → otherStore.all.Perm plugins →
          (other.refresh otherStore).tables = rebuilt.tables ∧
            refreshCount otherStore = refreshCount store := by
  intro store rebuilt
  have reachable : store.Reachable := PluginStore.reachable_ofList order
  have held : store.all.Perm plugins := PluginStore.all_ofList_perm distinct taken
  refine ⟨held, ?_, ?_, rfl, rfl, ?_⟩
  · exact (Tables.canonical_ofPlugins reachable).of_perm held
  · exact Tables.handlerCount_ofPlugins store
  · intro other otherStore otherReachable otherHeld
    have same : otherStore = store :=
      otherReachable.eq_of_perm reachable (otherHeld.trans held.symm)
    rw [same]
    exact ⟨rfl, rfl⟩

/-- A plugin for a domain with two commands of one name. -/
def rival (id description : String) : Plugin :=
  { Plugin.plain id
      [⟨"go", description, none, [], [], none⟩, ⟨"go", "", none, [], [], none⟩]
      fun _ => .done (.ok .empty) with
    domain := some .git }

/-- The later of two rivals comes first in the order of identifiers, and the first of its
two commands is stored. -/
theorem rebuilt_of_perm_rivals :
    let plugins := [rival "ant" "from the ant", rival "Bee" "from the bee"]
    let store := PluginStore.ofList [rival "Bee" "from the bee", rival "ant" "from the ant"]
    let rebuilt := (ofPlugins .empty ⟨[], none⟩).refresh store
    (plugins.map Plugin.key).Nodup ∧
      Tables.Canonical plugins rebuilt.tables ∧ rebuilt.tables.handlerCount = 1 + 6 ∧
      Namespaces.find? rebuilt.tables.handlers (.domain .git) "go" =
        some (.plugin (rival "ant" "from the ant")) ∧
      Namespaces.find? rebuilt.tables.usages (.domain .git) "go" =
        some (.describe (.domain .git) "go" "from the ant") := by
  intro plugins store rebuilt
  have distinct : (plugins.map Plugin.key).Nodup := by decide +kernel
  obtain ⟨_, canonical, counted, _⟩ :=
    rebuilt_of_perm distinct (List.Perm.swap _ _ []) (ofPlugins .empty ⟨[], none⟩)
  have single : refreshCount store = 1 := by decide +kernel
  rw [single] at counted
  exact ⟨distinct, canonical, counted, rfl, by decide +kernel⟩

end Registry

end ChatOps
