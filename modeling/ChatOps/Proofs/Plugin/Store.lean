import ChatOps.PluginStore
import ChatOps.Proofs.SortedMap
import ChatOps.Proofs.Text.Trimming
import Mathlib.Data.List.Nodup

/-!
# Stores of plugins over time

A store comes about by taking plugins in, removing them, and changing what they are at
the moment.  Every plugin is held under its own identifier in lower case, and so a plugin
that is found in any way is found by its identifier (`Reachable.get?_of_mem`).
-/

set_option autoImplicit false

namespace ChatOps

/-- Whether this is the same plugin at another moment.  It may have been switched on or
off, have started or have signed in meanwhile. -/
structure Plugin.Persists (plugin later : Plugin) : Prop where
  id : later.id = plugin.id
  domain : later.domain = plugin.domain
  commands : later.commands = plugin.commands
  run : later.run = plugin.run

theorem Plugin.Persists.addressOf {plugin later : Plugin} (persists : plugin.Persists later)
    (declaration : Declaration) :
    later.addressOf declaration = plugin.addressOf declaration := by
  rw [Plugin.addressOf, Plugin.addressOf, persists.domain, Plugin.key, persists.id]
  rfl

namespace PluginStore

inductive Reachable : PluginStore → Prop where
  | empty : Reachable .empty
  | registered {store after : PluginStore} {event : LifecycleEvent}
      (before : Reachable store) (plugin : Plugin)
      (taken : store.register? plugin = some (after, event)) : Reachable after
  | unregistered {store after : PluginStore} {event : LifecycleEvent}
      (before : Reachable store) (id : String)
      (removed : store.unregister? id = some (after, event)) : Reachable after
  | modified {store : PluginStore} (before : Reachable store) (id : String)
      (change : Plugin → Plugin) (same : ∀ plugin : Plugin, plugin.Persists (change plugin)) :
      Reachable (store.modify id change)

variable {store after : PluginStore} {event : LifecycleEvent}

/-! ## Steps -/

theorem plugins_register? {plugin : Plugin}
    (taken : store.register? plugin = some (after, event)) :
    after.plugins = store.plugins.insert plugin.key plugin := by
  unfold register? at taken
  split at taken
  · cases taken
  · cases taken
    rfl

theorem plugins_unregister? {id : String}
    (removed : store.unregister? id = some (after, event)) :
    after.plugins = store.plugins.erase (Text.asciiLower id) := by
  unfold unregister? at removed
  split at removed
  · cases removed
    rfl
  · cases removed

/-- A change of one plugin leaves every plugin the same. -/
theorem get?_modify (store : PluginStore) (id : String) {change : Plugin → Plugin}
    (same : ∀ plugin : Plugin, plugin.Persists (change plugin)) {key : String}
    {plugin : Plugin} (held : store.plugins.get? key = some plugin) :
    ∃ later, (store.modify id change).plugins.get? key = some later ∧
      plugin.Persists later := by
  rw [modify, SortedMap.get?_modify, held]
  by_cases changed : Text.asciiLower id = key
  · rw [if_pos changed, Option.map_some]
    by_cases named : plugin.id = id
    · exact ⟨change plugin, by rw [if_pos named], same plugin⟩
    · exact ⟨plugin, by rw [if_neg named], rfl, rfl, rfl, rfl⟩
  · rw [if_neg changed]
    exact ⟨plugin, rfl, rfl, rfl, rfl, rfl⟩

/-! ## Keys -/

/-- Every plugin is held under its own identifier. -/
theorem Reachable.key_eq (reachable : Reachable store) {key : String} {plugin : Plugin}
    (held : store.plugins.get? key = some plugin) : plugin.key = key := by
  induction reachable generalizing plugin with
  | empty => cases held
  | registered before newcomer taken inductionHypothesis =>
      rw [plugins_register? taken, SortedMap.get?_insert] at held
      split at held
      · next same =>
          cases held
          exact same
      · exact inductionHypothesis held
  | unregistered before id removed inductionHypothesis =>
      rw [plugins_unregister? removed, SortedMap.get?_erase] at held
      split at held
      · cases held
      · exact inductionHypothesis held
  | @modified older before id change same inductionHypothesis =>
      cases earlier : older.plugins.get? key with
      | none =>
          rw [modify, SortedMap.get?_modify, earlier] at held
          split at held <;> cases held
      | some plugin' =>
          obtain ⟨later, heldLater, persists⟩ := get?_modify older id same earlier
          rw [held] at heldLater
          cases heldLater
          rw [Plugin.key, persists.id]
          exact inductionHypothesis earlier

/-- A plugin that is held is found by its identifier. -/
theorem Reachable.get?_of_mem (reachable : Reachable store) {plugin : Plugin}
    (member : plugin ∈ store.all) : store.get? plugin.id = some plugin := by
  obtain ⟨⟨key, _⟩, entry, rfl⟩ := List.mem_map.1 member
  have held := SortedMap.get?_of_mem entry
  rw [← reachable.key_eq held] at held
  exact held

theorem Reachable.get?_eq_some_iff (reachable : Reachable store) {key : String}
    {plugin : Plugin} :
    store.plugins.get? key = some plugin ↔ plugin ∈ store.all ∧ plugin.key = key := by
  constructor
  · intro held
    exact ⟨List.mem_map.2 ⟨_, SortedMap.mem_of_get? held, rfl⟩, reachable.key_eq held⟩
  · rintro ⟨member, rfl⟩
    exact reachable.get?_of_mem member

/-- Plugins are listed in increasing order of their identifiers. -/
theorem Reachable.sorted (reachable : Reachable store) :
    store.all.Pairwise fun left right => compare left.key right.key = .lt := by
  rw [all, SortedMap.values, List.pairwise_map]
  refine store.plugins.sorted.imp_of_mem ?_
  rintro ⟨one, first⟩ ⟨two, second⟩ firstEntry secondEntry before
  rw [reachable.key_eq (SortedMap.get?_of_mem firstEntry),
    reachable.key_eq (SortedMap.get?_of_mem secondEntry)]
  exact before

theorem Reachable.nodup_keys (reachable : Reachable store) : (store.all.map Plugin.key).Nodup :=
  List.pairwise_map.2 (reachable.sorted.imp fun before => SortedMap.ne_of_compare_lt before)

theorem Reachable.nodup_all (reachable : Reachable store) : store.all.Nodup :=
  reachable.nodup_keys.of_map

/-! ## Sets of plugins -/

/-- The store with one more plugin, unless its identifier is taken. -/
def add (store : PluginStore) (plugin : Plugin) : PluginStore :=
  ((store.register? plugin).map Prod.fst).getD store

/-- The store of these plugins; the first one with an identifier counts. -/
def ofList (plugins : List Plugin) : PluginStore := plugins.foldl add .empty

theorem Reachable.add (reachable : Reachable store) (plugin : Plugin) :
    Reachable (store.add plugin) := by
  rw [PluginStore.add]
  cases taken : store.register? plugin with
  | none => exact reachable
  | some step => exact .registered reachable plugin taken

theorem reachable_ofList (plugins : List Plugin) : Reachable (ofList plugins) := by
  suffices more : ∀ store, Reachable store → Reachable (plugins.foldl PluginStore.add store)
    from more .empty .empty
  induction plugins with
  | nil => exact fun _ reachable => reachable
  | cons plugin rest inductionHypothesis =>
      intro store reachable
      exact inductionHypothesis (store.add plugin) (reachable.add plugin)

/-- Plugins are held under their own identifiers, the first one with each. -/
theorem get?_foldl_add (plugins : List Plugin) (key : String) :
    (plugins.foldl PluginStore.add store).plugins.get? key =
      (store.plugins.get? key).or (plugins.find? fun plugin => plugin.key == key) := by
  induction plugins generalizing store with
  | nil => simp
  | cons plugin rest inductionHypothesis =>
      rw [List.foldl_cons, inductionHypothesis, List.find?_cons]
      cases taken : store.register? plugin with
      | none =>
          rw [PluginStore.add, taken, Option.map_none, Option.getD_none]
          cases same : plugin.key == key with
          | false => rfl
          | true =>
              have held : store.plugins.contains plugin.key = true := by
                by_contra free
                rw [register?, if_neg free] at taken
                cases taken
              rw [beq_iff_eq.1 same] at held
              obtain ⟨older, found⟩ := Option.isSome_iff_exists.1 held
              rw [found]
              rfl
      | some step =>
          obtain ⟨after, event⟩ := step
          have free : store.plugins.get? plugin.key = none := by
            by_contra held
            have contained : store.plugins.contains plugin.key = true :=
              Option.isSome_iff_ne_none.2 held
            rw [register?, if_pos contained] at taken
            cases taken
          rw [PluginStore.add, taken, Option.map_some, Option.getD_some,
            plugins_register? taken, SortedMap.get?_insert]
          by_cases same : plugin.key = key
          · rw [if_pos same, ← same, free, beq_self_eq_true]
            rfl
          · rw [if_neg same, beq_false_of_ne same]

theorem get?_ofList (plugins : List Plugin) (key : String) :
    (ofList plugins).plugins.get? key = plugins.find? fun plugin => plugin.key == key := by
  rw [ofList, get?_foldl_add]
  rfl

/-- Of plugins that are told apart, every one is held. -/
theorem mem_all_ofList_iff {plugins : List Plugin}
    (distinct : (plugins.map Plugin.key).Nodup) {plugin : Plugin} :
    plugin ∈ (ofList plugins).all ↔ plugin ∈ plugins := by
  have held : (ofList plugins).plugins.get? plugin.key = some plugin ↔
      plugin ∈ (ofList plugins).all := by
    rw [(reachable_ofList plugins).get?_eq_some_iff, and_iff_left rfl]
  rw [← held, get?_ofList]
  constructor
  · exact List.mem_of_find?_eq_some
  · intro member
    cases found : plugins.find? fun other => other.key == plugin.key with
    | none => exact absurd (beq_self_eq_true _) (List.find?_eq_none.1 found plugin member)
    | some other =>
        have same := List.find?_some found
        have among := List.mem_of_find?_eq_some found
        rw [List.inj_on_of_nodup_map distinct among member (beq_iff_eq.1 same)]

/-- Of plugins that are told apart, in whatever order, all are held. -/
theorem all_ofList_perm {plugins order : List Plugin}
    (distinct : (plugins.map Plugin.key).Nodup) (same : order.Perm plugins) :
    (ofList order).all.Perm plugins := by
  have apart : (order.map Plugin.key).Nodup := (same.map Plugin.key).nodup_iff.2 distinct
  have once := (reachable_ofList order).nodup_all
  refine (List.perm_ext_iff_of_nodup once distinct.of_map).2 ?_
  intro plugin
  rw [mem_all_ofList_iff apart, same.mem_iff]

/-- A store is determined by the plugins that it holds. -/
theorem Reachable.eq_of_perm {other : PluginStore} (reachable : Reachable store)
    (otherReachable : Reachable other) (same : store.all.Perm other.all) : store = other := by
  have equal : store.plugins = other.plugins := by
    apply SortedMap.ext_get?
    intro key
    apply Option.ext
    intro plugin
    rw [reachable.get?_eq_some_iff, otherReachable.get?_eq_some_iff, same.mem_iff]
  exact congrArg PluginStore.mk equal

/-! ## Moments -/

/-- Whether every plugin of a store is still held at another moment. -/
def Persists (store later : PluginStore) : Prop :=
  ∀ id plugin, store.get? id = some plugin →
    ∃ now, later.get? id = some now ∧ plugin.Persists now

/-- What has become of a plugin.  One that is no longer held stays as it was. -/
def current (store : PluginStore) (plugin : Plugin) : Plugin :=
  (store.get? plugin.id).getD plugin

theorem persists_refl (store : PluginStore) : store.Persists store :=
  fun _ plugin held => ⟨plugin, held, rfl, rfl, rfl, rfl⟩

theorem persists_modify (store : PluginStore) (id : String) {change : Plugin → Plugin}
    (same : ∀ plugin : Plugin, plugin.Persists (change plugin)) :
    store.Persists (store.modify id change) := by
  intro other plugin held
  exact get?_modify store id same held

theorem mem_all_of_get? {id : String} {plugin : Plugin}
    (held : store.get? id = some plugin) : plugin ∈ store.all :=
  List.mem_map.2 ⟨_, SortedMap.mem_of_get? held, rfl⟩

/-- What has become of a plugin is held under its identifier. -/
theorem Reachable.get?_current {later : PluginStore} (reachable : Reachable store)
    (persists : store.Persists later) {plugin : Plugin} (member : plugin ∈ store.all) :
    later.get? plugin.id = some (later.current plugin) ∧
      plugin.Persists (later.current plugin) := by
  obtain ⟨now, held, same⟩ := persists plugin.id plugin (reachable.get?_of_mem member)
  rw [current, held, Option.getD_some]
  exact ⟨rfl, same⟩

theorem Reachable.current_of_mem (reachable : Reachable store) {plugin : Plugin}
    (member : plugin ∈ store.all) : store.current plugin = plugin := by
  rw [current, reachable.get?_of_mem member, Option.getD_some]

end PluginStore

end ChatOps
