import ChatOps.Proofs.Plugin.Store
import Mathlib.Data.Finset.Basic
import Mathlib.Data.String.Basic

/-!
# Journals of plugin stores

A store of plugins is called any number of times, and the events that it emits are written
down.  Whatever the case of the letters in which plugins and callers spell identifiers, every
call does what it should to the plugins that are held (`answersWell_of_calls`), and which
identifiers are held can be told from the events alone.
-/

set_option autoImplicit false

namespace ChatOps

namespace PluginStore

/-! ## Calls and events -/

inductive Call where
  | register (plugin : Plugin)
  | unregister (id : String)
  | get (id : String)
  | ofDomain (domain : Domain)

/-- What a call returns; a registration that is refused says why. -/
inductive Answer where
  | registered (refusal : Option String)
  | unregistered (removed : Bool)
  | found (plugin : Option Plugin)

/-- A store with the events that it has emitted. -/
structure Journal where
  store : PluginStore
  events : List LifecycleEvent

/-- The identifiers that are held by what events say, in lower case. -/
def replay (events : List LifecycleEvent) : Finset String :=
  events.foldl (fun held event =>
    match event with
    | .registered id => insert (Text.asciiLower id) held
    | .unregistered id => held.erase (Text.asciiLower id)
    | .initialized => held) ∅

namespace Journal

def empty : Journal := ⟨.empty, []⟩

def call (journal : Journal) : Call → Journal × Answer
  | .register plugin =>
      match journal.store.register? plugin with
      | some (store, event) => (⟨store, journal.events ++ [event]⟩, .registered none)
      | none => (journal, .registered (some (duplicateMessage plugin.id)))
  | .unregister id =>
      match journal.store.unregister? id with
      | some (store, event) => (⟨store, journal.events ++ [event]⟩, .unregistered true)
      | none => (journal, .unregistered false)
  | .get id => (journal, .found (journal.store.get? id))
  | .ofDomain domain => (journal, .found (journal.store.ofDomain? domain))

def callAll (journal : Journal) (calls : List Call) : Journal :=
  calls.foldl (fun current next => (current.call next).1) journal

/-- Whether a plugin is held under an identifier, up to the case of letters. -/
def Holds (journal : Journal) (id : String) : Prop :=
  ∃ plugin ∈ journal.store.all, Text.asciiLower plugin.id = Text.asciiLower id

/-- What is promised of every next call, and of the plugins held. -/
structure AnswersWell (journal : Journal) : Prop where
  distinct : (journal.store.all.map fun plugin => Text.asciiLower plugin.id).Nodup
  refused : ∀ plugin, journal.Holds plugin.id →
    journal.call (.register plugin) =
      (journal, .registered (some (duplicateMessage plugin.id)))
  registered : ∀ plugin, ¬journal.Holds plugin.id → ∃ store,
    journal.call (.register plugin) =
        (⟨store, journal.events ++ [.registered plugin.id]⟩, .registered none) ∧
      ∀ other, other ∈ store.all ↔ other = plugin ∨ other ∈ journal.store.all
  unknown : ∀ id, ¬journal.Holds id →
    journal.call (.unregister id) = (journal, .unregistered false)
  unregistered : ∀ id, journal.Holds id → ∃ store,
    journal.call (.unregister id) =
        (⟨store, journal.events ++ [.unregistered id]⟩, .unregistered true) ∧
      ∀ other, other ∈ store.all ↔
        other ∈ journal.store.all ∧ Text.asciiLower other.id ≠ Text.asciiLower id
  got : ∀ id, ∃ found, journal.call (.get id) = (journal, .found found) ∧
    ∀ plugin, found = some plugin ↔
      plugin ∈ journal.store.all ∧ Text.asciiLower plugin.id = Text.asciiLower id
  gotOfDomain : ∀ domain, ∃ found, journal.call (.ofDomain domain) = (journal, .found found) ∧
    ∀ plugin, found = some plugin ↔
      plugin ∈ journal.store.all ∧ plugin.domain = some domain ∧
        ∀ other ∈ journal.store.all, other.domain = some domain →
          Text.asciiLower plugin.id ≤ Text.asciiLower other.id
  replayed : ∀ id, id ∈ replay journal.events ↔
    ∃ plugin ∈ journal.store.all, Text.asciiLower plugin.id = id

end Journal

variable {store after : PluginStore} {event : LifecycleEvent}

/-! ## One call -/

theorem Reachable.contains_iff (reachable : Reachable store) {key : String} :
    store.plugins.contains key = true ↔ ∃ plugin ∈ store.all, plugin.key = key := by
  rw [SortedMap.contains, Option.isSome_iff_exists]
  simp only [reachable.get?_eq_some_iff]

theorem Reachable.get?_iff (reachable : Reachable store) {id : String} {plugin : Plugin} :
    store.get? id = some plugin ↔
      plugin ∈ store.all ∧ Text.asciiLower plugin.id = Text.asciiLower id :=
  reachable.get?_eq_some_iff

theorem Reachable.eq_of_key (reachable : Reachable store) {plugin other : Plugin}
    (member : plugin ∈ store.all) (otherMember : other ∈ store.all)
    (same : plugin.key = other.key) : plugin = other := by
  have held := reachable.get?_eq_some_iff.2 ⟨member, rfl⟩
  rw [reachable.get?_eq_some_iff.2 ⟨otherMember, same.symm⟩] at held
  exact (Option.some.inj held).symm

theorem Reachable.least_of_ofDomain? (reachable : Reachable store) {domain : Domain}
    {plugin : Plugin} (found : store.ofDomain? domain = some plugin) :
    plugin ∈ store.all ∧ plugin.domain = some domain ∧
      ∀ other ∈ store.all, other.domain = some domain → plugin.key ≤ other.key := by
  obtain ⟨isOfDomain, earlier, later, split, excluded⟩ := List.find?_eq_some_iff_append.1 found
  refine ⟨List.mem_of_find?_eq_some found, by simpa using isOfDomain, ?_⟩
  intro other member ofDomain
  have sorted := reachable.sorted
  rw [split] at member sorted
  rcases List.mem_append.1 member with isEarlier | isLater
  · have notOfDomain := excluded other isEarlier
    simp [ofDomain] at notOfDomain
  · rcases List.mem_cons.1 isLater with rfl | behind
    · exact le_refl _
    · have before := (List.pairwise_cons.1 (List.pairwise_append.1 sorted).2.1).1 other behind
      exact le_of_lt (compare_lt_iff_lt.1 before)

/-- Of the plugins of a domain, the one whose identifier comes first is found. -/
theorem Reachable.ofDomain?_iff (reachable : Reachable store) {domain : Domain}
    {plugin : Plugin} :
    store.ofDomain? domain = some plugin ↔
      plugin ∈ store.all ∧ plugin.domain = some domain ∧
        ∀ other ∈ store.all, other.domain = some domain → plugin.key ≤ other.key := by
  constructor
  · exact reachable.least_of_ofDomain?
  · rintro ⟨member, ofDomain, least⟩
    cases found : store.ofDomain? domain with
    | none =>
        have excluded := List.find?_eq_none.1 found plugin member
        simp [ofDomain] at excluded
    | some other =>
        obtain ⟨otherMember, otherOfDomain, otherLeast⟩ := reachable.least_of_ofDomain? found
        have same := le_antisymm (least other otherMember otherOfDomain)
          (otherLeast plugin member ofDomain)
        rw [reachable.eq_of_key member otherMember same]

theorem register?_of_contains {plugin : Plugin}
    (taken : store.plugins.contains plugin.key = true) : store.register? plugin = none :=
  if_pos taken

theorem register?_of_free {plugin : Plugin}
    (free : ¬store.plugins.contains plugin.key = true) :
    store.register? plugin =
      some (⟨store.plugins.insert plugin.key plugin⟩, .registered plugin.id) :=
  if_neg free

theorem unregister?_of_contains {id : String}
    (held : store.plugins.contains (Text.asciiLower id) = true) :
    store.unregister? id =
      some (⟨store.plugins.erase (Text.asciiLower id)⟩, .unregistered id) :=
  if_pos held

theorem unregister?_of_free {id : String}
    (free : ¬store.plugins.contains (Text.asciiLower id) = true) :
    store.unregister? id = none :=
  if_neg free

theorem Reachable.mem_all_registered (reachable : Reachable store) {plugin : Plugin}
    (free : ¬store.plugins.contains plugin.key = true) (other : Plugin) :
    other ∈ (⟨store.plugins.insert plugin.key plugin⟩ : PluginStore).all ↔
      other = plugin ∨ other ∈ store.all := by
  have later : Reachable ⟨store.plugins.insert plugin.key plugin⟩ :=
    .registered reachable plugin (register?_of_free free)
  have held : other ∈ (⟨store.plugins.insert plugin.key plugin⟩ : PluginStore).all ↔
      (store.plugins.insert plugin.key plugin).get? other.key = some other := by
    rw [later.get?_eq_some_iff, and_iff_left rfl]
  rw [held, SortedMap.get?_insert]
  split
  · next same =>
      rw [Option.some.injEq, eq_comm]
      refine (or_iff_left ?_).symm
      intro member
      exact free (reachable.contains_iff.2 ⟨other, member, same.symm⟩)
  · next different =>
      rw [reachable.get?_eq_some_iff, and_iff_left rfl]
      refine (or_iff_right ?_).symm
      rintro rfl
      exact different rfl

theorem Reachable.mem_all_unregistered (reachable : Reachable store) {id : String}
    (held : store.plugins.contains (Text.asciiLower id) = true) (other : Plugin) :
    other ∈ (⟨store.plugins.erase (Text.asciiLower id)⟩ : PluginStore).all ↔
      other ∈ store.all ∧ other.key ≠ Text.asciiLower id := by
  have later : Reachable ⟨store.plugins.erase (Text.asciiLower id)⟩ :=
    .unregistered reachable id (unregister?_of_contains held)
  have kept : other ∈ (⟨store.plugins.erase (Text.asciiLower id)⟩ : PluginStore).all ↔
      (store.plugins.erase (Text.asciiLower id)).get? other.key = some other := by
    rw [later.get?_eq_some_iff, and_iff_left rfl]
  rw [kept, SortedMap.get?_erase]
  split
  · next same => simp [same]
  · next different =>
      rw [reachable.get?_eq_some_iff, and_iff_left rfl]
      exact (and_iff_left (Ne.symm different)).symm

/-! ## Replaying events -/

theorem replay_concat (events : List LifecycleEvent) (event : LifecycleEvent) :
    replay (events ++ [event]) =
      match event with
      | .registered id => insert (Text.asciiLower id) (replay events)
      | .unregistered id => (replay events).erase (Text.asciiLower id)
      | .initialized => replay events := by
  rw [replay, List.foldl_append]
  rfl

namespace Journal

variable {journal : Journal}

/-- Whether a store came about by calls, and its events account for it. -/
structure Kept (journal : Journal) : Prop where
  reachable : Reachable journal.store
  replayed : ∀ id, id ∈ replay journal.events ↔
    ∃ plugin ∈ journal.store.all, Text.asciiLower plugin.id = id

theorem Kept.contains_iff (kept : journal.Kept) {id : String} :
    journal.store.plugins.contains (Text.asciiLower id) = true ↔ journal.Holds id :=
  kept.reachable.contains_iff

theorem kept_empty : Kept empty where
  reachable := .empty
  replayed := by
    intro id
    constructor
    · intro member
      cases member
    · rintro ⟨plugin, member, _⟩
      cases member

/-- A registration, where the identifier is free. -/
theorem Kept.registered (kept : journal.Kept) {plugin : Plugin}
    (free : ¬journal.Holds plugin.id) :
    ∃ store, journal.call (.register plugin) =
        (⟨store, journal.events ++ [.registered plugin.id]⟩, .registered none) ∧
      (∀ other, other ∈ store.all ↔ other = plugin ∨ other ∈ journal.store.all) ∧
      Kept ⟨store, journal.events ++ [.registered plugin.id]⟩ := by
  have notContained : ¬journal.store.plugins.contains plugin.key = true :=
    fun contained => free (kept.contains_iff.1 contained)
  have taken := register?_of_free notContained
  have members := kept.reachable.mem_all_registered notContained
  refine ⟨_, by rw [call, taken], members, .registered kept.reachable plugin taken, ?_⟩
  intro id
  simp only [replay_concat, Finset.mem_insert, kept.replayed, members]
  constructor
  · rintro (rfl | ⟨other, member, named⟩)
    · exact ⟨plugin, .inl rfl, rfl⟩
    · exact ⟨other, .inr member, named⟩
  · rintro ⟨other, rfl | member, named⟩
    · exact .inl named.symm
    · exact .inr ⟨other, member, named⟩

/-- A removal, where a plugin is held. -/
theorem Kept.unregistered (kept : journal.Kept) {id : String} (holds : journal.Holds id) :
    ∃ store, journal.call (.unregister id) =
        (⟨store, journal.events ++ [.unregistered id]⟩, .unregistered true) ∧
      (∀ other, other ∈ store.all ↔
        other ∈ journal.store.all ∧ Text.asciiLower other.id ≠ Text.asciiLower id) ∧
      Kept ⟨store, journal.events ++ [.unregistered id]⟩ := by
  have contained := kept.contains_iff.2 holds
  have removed := unregister?_of_contains contained
  have members := kept.reachable.mem_all_unregistered contained
  refine ⟨_, by rw [call, removed], members, .unregistered kept.reachable id removed, ?_⟩
  intro other
  simp only [replay_concat, Finset.mem_erase, kept.replayed, members]
  constructor
  · rintro ⟨different, plugin, member, rfl⟩
    exact ⟨plugin, ⟨member, different⟩, rfl⟩
  · rintro ⟨plugin, ⟨member, different⟩, rfl⟩
    exact ⟨different, plugin, member, rfl⟩

theorem Kept.refused (kept : journal.Kept) {plugin : Plugin} (holds : journal.Holds plugin.id) :
    journal.call (.register plugin) =
      (journal, .registered (some (duplicateMessage plugin.id))) := by
  rw [call, register?_of_contains (kept.contains_iff.2 holds)]

theorem Kept.unknown (kept : journal.Kept) {id : String} (free : ¬journal.Holds id) :
    journal.call (.unregister id) = (journal, .unregistered false) := by
  rw [call, unregister?_of_free fun contained => free (kept.contains_iff.1 contained)]

theorem Kept.call (kept : journal.Kept) (next : Call) : (journal.call next).1.Kept := by
  cases next with
  | register plugin =>
      by_cases holds : journal.Holds plugin.id
      · rw [kept.refused holds]
        exact kept
      · obtain ⟨store, called, _, after⟩ := kept.registered holds
        rw [called]
        exact after
  | unregister id =>
      by_cases holds : journal.Holds id
      · obtain ⟨store, called, _, after⟩ := kept.unregistered holds
        rw [called]
        exact after
      · rw [kept.unknown holds]
        exact kept
  | get id => exact kept
  | ofDomain domain => exact kept

theorem Kept.callAll (kept : journal.Kept) (calls : List Call) :
    (journal.callAll calls).Kept := by
  induction calls generalizing journal with
  | nil => exact kept
  | cons next rest inductionHypothesis => exact inductionHypothesis (kept.call next)

theorem Kept.distinct (kept : journal.Kept) :
    (journal.store.all.map fun plugin => Text.asciiLower plugin.id).Nodup :=
  kept.reachable.nodup_keys

theorem answersWell_of_calls (calls : List Call) : AnswersWell (empty.callAll calls) := by
  have kept := kept_empty.callAll calls
  generalize empty.callAll calls = journal at kept
  constructor
  case distinct => exact kept.distinct
  case refused => exact fun plugin => kept.refused
  case registered =>
    intro plugin free
    obtain ⟨store, called, members, _⟩ := kept.registered free
    exact ⟨store, called, members⟩
  case unknown => exact fun id => kept.unknown
  case unregistered =>
    intro id holds
    obtain ⟨store, called, members, _⟩ := kept.unregistered holds
    exact ⟨store, called, members⟩
  case got => exact fun id => ⟨_, rfl, fun plugin => kept.reachable.get?_iff⟩
  case gotOfDomain => exact fun domain => ⟨_, rfl, fun plugin => kept.reachable.ofDomain?_iff⟩
  case replayed => exact kept.replayed

end Journal

end PluginStore

end ChatOps
