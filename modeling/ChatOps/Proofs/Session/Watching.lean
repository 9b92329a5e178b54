import ChatOps.Session

/-!
# The watcher of plugins

The watcher of a session reads of the changes of plugins, and rebuilds the tables once for
each notice that it receives.  Events pile up until it runs, and when there are too many,
the oldest are lost and one notice tells so.  However changes and readings follow one
another, no change is lost on the tables: once the watcher has read something, they are
those of the plugins held by then, and it takes as many rebuilds as there are events, or
one more than are kept (`catchesUp_of_watched`).
-/

set_option autoImplicit false

namespace ChatOps

namespace Feed

variable {Event : Type} {feed : Feed Event} {unread : Nat}

/-- The feed after the reader has received one notice. -/
def rest (feed : Feed Event) : Feed Event :=
  if feed.missed = 0 then
    { feed with
      events := feed.events.tail
      bounded := by
        have bounded := feed.bounded
        rw [List.length_tail]
        omega }
  else { feed with missed := 0 }

theorem notices_rest (feed : Feed Event) : feed.rest.notices = feed.notices.tail := by
  rw [rest, notices, notices]
  by_cases none : feed.missed = 0
  · simp [none, List.map_tail]
  · simp [none]

theorem capacity_rest (feed : Feed Event) : feed.rest.capacity = feed.capacity := by
  rw [rest]
  split <;> rfl

theorem eq_drained_of_notices (nothing : feed.notices = []) : feed = feed.drained := by
  obtain ⟨capacity, missed, events, bounded⟩ := feed
  obtain ⟨noneMissed, noEvents⟩ := List.append_eq_nil_iff.1 nothing
  cases List.map_eq_nil_iff.1 noEvents
  by_cases isZero : missed = 0
  · subst isZero
    rfl
  · rw [if_neg isZero] at noneMissed
    cases noneMissed

/-! ## Backlogs -/

/-- Whether the reader is behind by this many events, of which only the newest are kept. -/
structure Backlog (feed : Feed Event) (unread : Nat) : Prop where
  missed : feed.missed = unread - feed.capacity
  kept : feed.events.length = min unread feed.capacity

theorem backlog_empty (capacity : Nat) : (empty capacity : Feed Event).Backlog 0 where
  missed := (Nat.zero_sub capacity).symm
  kept := (Nat.zero_min capacity).symm

theorem Backlog.push (backlog : feed.Backlog unread) (event : Event) :
    (feed.push event).Backlog (unread + 1) where
  missed := by
    have missed := backlog.missed
    have kept := backlog.kept
    simp only [Feed.push, excess, List.length_append, List.length_singleton]
    omega
  kept := by
    have kept := backlog.kept
    simp only [Feed.push, newest, List.length_drop, List.length_append, List.length_singleton]
    omega

/-- A reader that has missed events is behind by those that are kept, once it is told so. -/
theorem Backlog.rest (backlog : feed.Backlog unread) :
    feed.rest.Backlog (if feed.capacity < unread then feed.capacity else unread - 1) := by
  have missed := backlog.missed
  have kept := backlog.kept
  rw [Feed.rest]
  by_cases isBehind : feed.capacity < unread
  · have someMissed : feed.missed ≠ 0 := by omega
    rw [if_pos isBehind, if_neg someMissed]
    refine ⟨(Nat.sub_self _).symm, ?_⟩
    rw [Nat.min_self, kept]
    exact Nat.min_eq_right (Nat.le_of_lt isBehind)
  · have noneMissed : feed.missed = 0 := by omega
    rw [if_neg isBehind, if_pos noneMissed]
    refine ⟨by simp only; omega, ?_⟩
    simp only [List.length_tail]
    omega

theorem Backlog.length_notices (backlog : feed.Backlog unread) :
    feed.notices.length = if unread ≤ feed.capacity then unread else feed.capacity + 1 := by
  have missed := backlog.missed
  have kept := backlog.kept
  rw [notices, List.length_append, List.length_map, kept]
  by_cases fits : unread ≤ feed.capacity
  · have noneMissed : feed.missed = 0 := by omega
    rw [if_pos fits, if_pos noneMissed, List.length_nil]
    omega
  · have someMissed : feed.missed ≠ 0 := by omega
    rw [if_neg fits, if_neg someMissed, List.length_singleton]
    omega

end Feed

namespace Session

variable {session : Session} {unread : Nat}

/-- Whether the tables are those of the plugins that are held. -/
def UpToDate (session : Session) : Prop :=
  session.registry.tables = (Tables.ofPlugins session.store).1

/-! ## Rebuilding several times -/

/-- What a step leaves alone, several steps leave alone. -/
theorem times_same {Value : Type} (step : Session → Session) (observe : Session → Value)
    (same : ∀ session, observe (step session) = observe session) (count : Nat)
    (session : Session) : observe (times step count session) = observe session := by
  induction count generalizing session with
  | zero => rfl
  | succ count inductionHypothesis => rw [times, inductionHypothesis, same]

theorem store_times_refresh (count : Nat) (session : Session) :
    (times refresh count session).store = session.store :=
  times_same refresh Session.store (fun _ => rfl) count session

theorem watcher_times_refresh (count : Nat) (session : Session) :
    (times refresh count session).watcher = session.watcher :=
  times_same refresh Session.watcher (fun _ => rfl) count session

theorem agenda_times_refresh (count : Nat) (session : Session) :
    (times refresh count session).agenda = session.agenda :=
  times_same refresh Session.agenda (fun _ => rfl) count session

theorem feed_times_refresh (count : Nat) (session : Session) :
    (times refresh count session).registry.feed =
      (List.replicate count (.rebuilt (Registry.refreshCount session.store))).foldl
        Feed.push session.registry.feed := by
  induction count generalizing session with
  | zero => rfl
  | succ count inductionHypothesis =>
      rw [times, inductionHypothesis, List.replicate_succ, List.foldl_cons]
      rfl

theorem upToDate_times_refresh {count : Nat} (several : 0 < count) (session : Session) :
    (times refresh count session).UpToDate := by
  induction count generalizing session with
  | zero => cases several
  | succ count inductionHypothesis =>
      rw [times]
      cases count with
      | zero => rfl
      | succ count => exact inductionHypothesis (Nat.succ_pos count) session.refresh

/-! ## Reading one notice at a time -/

/-- Receive a notice of the watcher, if there is one, and rebuild. -/
def readNotice (session : Session) : Session :=
  match session.watcher with
  | some feed =>
      if feed.isEmpty then session
      else { session with watcher := some feed.rest }.refresh
  | none => session

theorem readNotice_of_nil {feed : Feed LifecycleEvent} (watches : session.watcher = some feed)
    (nothing : feed.notices = []) : session.readNotice = session := by
  rw [readNotice, watches]
  exact if_pos (List.isEmpty_iff.2 nothing)

theorem readNotice_of_ne_nil {feed : Feed LifecycleEvent}
    (watches : session.watcher = some feed) (left : feed.notices ≠ []) :
    session.readNotice = { session with watcher := some feed.rest }.refresh := by
  rw [readNotice, watches]
  exact if_neg fun isEmpty => left (List.isEmpty_iff.1 isEmpty)

/-- To read until nothing is left is to rebuild once for each notice. -/
theorem times_readNotice {feed : Feed LifecycleEvent} (watches : session.watcher = some feed) :
    times readNotice feed.notices.length session =
      times refresh feed.notices.length { session with watcher := some feed.drained } := by
  generalize size : feed.notices.length = count
  induction count generalizing session feed with
  | zero =>
      rw [← Feed.eq_drained_of_notices (List.length_eq_zero_iff.1 size), ← watches]
      rfl
  | succ count inductionHypothesis =>
      have left : feed.notices ≠ [] := by
        rw [← List.length_pos_iff, size]
        exact Nat.succ_pos count
      have fewer : feed.rest.notices.length = count := by
        rw [Feed.notices_rest, List.length_tail, size, Nat.add_sub_cancel]
      -- Rebuilding does not look at the watcher, so the feed may as well be drained first.
      rw [times, readNotice_of_ne_nil watches left, inductionHypothesis rfl fewer, times,
        Feed.drained, Feed.drained, Feed.capacity_rest]
      rfl

/-! ## What is left to read -/

/-- Whether the watcher is behind by this many events, and will run if there are any. -/
structure Behind (session : Session) (unread : Nat) : Prop where
  feed : ∃ feed, session.watcher = some feed ∧ feed.capacity = watcherCapacity ∧
    feed.Backlog unread
  planned : session.agenda = [.rebuild] ∨ session.agenda = [] ∧ unread = 0

theorem behind_create {setup : Setup} (emits : setup.emitsEvents = true)
    (attached : setup.detached = false) : (create setup).Behind 0 := by
  have created : (create setup).watcher = some (.empty watcherCapacity) ∧
      (create setup).agenda = [] := by
    simp [create, planPoll, emits, attached]
  exact ⟨⟨_, created.1, rfl, Feed.backlog_empty watcherCapacity⟩, .inr ⟨created.2, rfl⟩⟩

theorem Behind.announce (behind : session.Behind unread) (event : LifecycleEvent) :
    (session.announce event).Behind (unread + 1) := by
  obtain ⟨feed, watches, capacity, backlog⟩ := behind.feed
  have planned : (session.announce event).watcher = some (feed.push event) ∧
      (session.announce event).agenda = [.rebuild] := by
    rcases behind.planned with agenda | ⟨agenda, _⟩
    · simp [Session.announce, watches, plan, agenda]
    · simp [Session.announce, watches, plan, agenda]
  exact ⟨⟨feed.push event, planned.1, capacity, backlog.push event⟩, .inl planned.2⟩

/-- What has nothing to do with the watcher leaves it alone. -/
theorem Behind.of_same {later : Session} (behind : session.Behind unread)
    (watcher : later.watcher = session.watcher) (agenda : later.agenda = session.agenda) :
    later.Behind unread where
  feed := by
    rw [watcher]
    exact behind.feed
  planned := by
    rw [agenda]
    exact behind.planned

theorem Behind.changed (behind : session.Behind unread) (store : PluginStore)
    (event : LifecycleEvent) :
    ({ session with store := store }.announce event).Behind (unread + 1) := by
  have held : { session with store := store }.Behind unread := behind.of_same rfl rfl
  exact held.announce event

theorem Behind.registerPlugin (behind : session.Behind unread) (plugin : Plugin) :
    (session.registerPlugin plugin).1.Behind
      (if (session.registerPlugin plugin).2 then unread + 1 else unread) := by
  rw [Session.registerPlugin]
  cases session.store.register? plugin with
  | none => exact behind
  | some step => exact behind.changed step.1 step.2

theorem Behind.unregisterPlugin (behind : session.Behind unread) (id : String) :
    (session.unregisterPlugin id).1.Behind
      (if (session.unregisterPlugin id).2 then unread + 1 else unread) := by
  rw [Session.unregisterPlugin]
  cases session.store.unregister? id with
  | none => exact behind
  | some step => exact behind.changed step.1 step.2

/-- A session that has something left to read rebuilds at the next notice. -/
theorem Behind.readNotice_eq (behind : session.Behind unread) (left : 0 < unread) :
    ∃ feed, session.watcher = some feed ∧ feed.capacity = watcherCapacity ∧
      feed.Backlog unread ∧
      session.readNotice = { session with watcher := some feed.rest }.refresh := by
  obtain ⟨feed, watches, capacity, backlog⟩ := behind.feed
  refine ⟨feed, watches, capacity, backlog, readNotice_of_ne_nil watches ?_⟩
  rw [← List.length_pos_iff, backlog.length_notices]
  split <;> omega

theorem Behind.readNotice (behind : session.Behind unread) :
    session.readNotice.Behind (if 64 < unread then 64 else unread - 1) := by
  cases unread with
  | zero =>
      obtain ⟨feed, watches, capacity, backlog⟩ := behind.feed
      have nothing : feed.notices = [] := by
        rw [← List.length_eq_zero_iff, backlog.length_notices]
        exact if_pos (Nat.zero_le _)
      rw [readNotice_of_nil watches nothing]
      exact behind
  | succ fewer =>
      obtain ⟨feed, watches, capacity, backlog, read⟩ := behind.readNotice_eq (Nat.succ_pos fewer)
      have sizes : watcherCapacity = 64 := rfl
      have fewerLeft := backlog.rest
      rw [capacity, sizes] at fewerLeft
      have planned : session.agenda = [.rebuild] :=
        behind.planned.resolve_right fun idle => Nat.succ_ne_zero fewer idle.2
      rw [read]
      exact ⟨⟨feed.rest, rfl, feed.capacity_rest.trans capacity, fewerLeft⟩, .inl planned⟩

/-- A turn of the watcher reads everything. -/
theorem Behind.background_eq (behind : session.Behind unread) :
    ∃ feed, session.watcher = some feed ∧ feed.capacity = watcherCapacity ∧
      feed.notices.length = (if unread ≤ 64 then unread else 65) ∧
      session.background = times refresh (if unread ≤ 64 then unread else 65)
        { session with agenda := [], watcher := some feed.drained } := by
  obtain ⟨feed, watches, capacity, backlog⟩ := behind.feed
  have size : feed.notices.length = if unread ≤ 64 then unread else 65 := by
    have sizes : watcherCapacity = 64 := rfl
    rw [backlog.length_notices, capacity, sizes]
  refine ⟨feed, watches, capacity, size, ?_⟩
  rcases behind.planned with agenda | ⟨agenda, rfl⟩
  · rw [background, agenda, ← size]
    simp only [List.foldl_cons, List.foldl_nil, perform, followLifecycle, watches]
  · -- The watcher is not to run, and has nothing to read either.
    have nothing : feed.notices = [] := List.length_eq_zero_iff.1 size
    rw [background, agenda, ← Feed.eq_drained_of_notices nothing, ← watches]
    rfl

theorem Behind.background (behind : session.Behind unread) : session.background.Behind 0 := by
  obtain ⟨feed, _, capacity, _, read⟩ := behind.background_eq
  rw [read]
  constructor
  case feed =>
    rw [watcher_times_refresh]
    exact ⟨feed.drained, rfl, capacity, Feed.backlog_empty feed.capacity⟩
  case planned =>
    rw [agenda_times_refresh]
    exact .inr ⟨rfl, rfl⟩

/-! ## Every course of events -/

/-- The sessions that come about from a setup while plugins are taken in and removed, are
said to have started, and are changed in silence, such as by switching them on or off, while
the registry is used in any way, and while the watcher reads a notice or has its turn at any
moment; with the number of events that the watcher has yet to read.  If there are more than
are kept, the first notice that it receives only says so. -/
inductive Watched (setup : Setup) : Session → Nat → Prop where
  | created : Watched setup (create setup) 0
  | registered {session : Session} {unread : Nat} (before : Watched setup session unread)
      (plugin : Plugin) :
      Watched setup (session.registerPlugin plugin).1
        (if (session.registerPlugin plugin).2 then unread + 1 else unread)
  | unregistered {session : Session} {unread : Nat} (before : Watched setup session unread)
      (id : String) :
      Watched setup (session.unregisterPlugin id).1
        (if (session.unregisterPlugin id).2 then unread + 1 else unread)
  | initialized {session : Session} {unread : Nat} (before : Watched setup session unread) :
      Watched setup (session.announce .initialized) (unread + 1)
  | modified {session : Session} {unread : Nat} (before : Watched setup session unread)
      (id : String) (change : Plugin → Plugin) :
      Watched setup (session.modifyPlugin id change) unread
  | used {session : Session} {unread : Nat} (before : Watched setup session unread)
      (registry : Registry) :
      Watched setup (session.withRegistry registry) unread
  | read {session : Session} {unread : Nat} (before : Watched setup session unread) :
      Watched setup session.readNotice (if 64 < unread then 64 else unread - 1)
  | turned {session : Session} {unread : Nat} (before : Watched setup session unread) :
      Watched setup session.background 0

variable {setup : Setup}

theorem Watched.announced (watched : Watched setup session unread) (count : Nat) :
    Watched setup (times (announce · .initialized) count session) (unread + count) := by
  induction count generalizing session unread with
  | zero => exact watched
  | succ count inductionHypothesis =>
      have later := inductionHypothesis watched.initialized
      rw [Nat.add_assoc, Nat.add_comm 1 count] at later
      exact later

theorem behind_of_watched (emits : setup.emitsEvents = true) (attached : setup.detached = false)
    (watched : Watched setup session unread) : session.Behind unread := by
  induction watched with
  | created => exact behind_create emits attached
  | registered before plugin inductionHypothesis =>
      exact inductionHypothesis.registerPlugin plugin
  | unregistered before id inductionHypothesis =>
      exact inductionHypothesis.unregisterPlugin id
  | initialized before inductionHypothesis => exact inductionHypothesis.announce .initialized
  | modified before id change inductionHypothesis => exact inductionHypothesis.of_same rfl rfl
  | used before registry inductionHypothesis => exact inductionHypothesis.of_same rfl rfl
  | read before inductionHypothesis => exact inductionHypothesis.readNotice
  | turned before inductionHypothesis => exact inductionHypothesis.background

/-- What is promised of a watcher that is behind by some events.  After its next notice and
after its turn the tables are those of the plugins held now.  In its turn it reads one
notice after another until nothing is left, and rebuilds for each of them: for each event,
or if there are more than 64, for those and for the notice of the others. -/
structure CatchesUp (session : Session) (unread : Nat) : Prop where
  next : 0 < unread → session.readNotice.UpToDate ∧ session.readNotice.store = session.store
  turn : 0 < unread → session.background.UpToDate
  store : session.background.store = session.store
  emptied : ∃ feed, session.background.watcher = some feed ∧ feed.isEmpty = true
  oneByOne : session.background =
    times readNotice (if unread ≤ 64 then unread else 65) { session with agenda := [] }
  rebuilds : session.background.registry.feed =
    (List.replicate (if unread ≤ 64 then unread else 65)
      (.rebuilt (Registry.refreshCount session.store))).foldl Feed.push session.registry.feed

theorem catchesUp_of_watched (emits : setup.emitsEvents = true)
    (attached : setup.detached = false) (watched : Watched setup session unread) :
    CatchesUp session unread := by
  have behind := behind_of_watched emits attached watched
  obtain ⟨feed, watches, _, size, read⟩ := behind.background_eq
  constructor
  case next =>
    intro left
    obtain ⟨_, _, _, _, next⟩ := behind.readNotice_eq left
    rw [next]
    exact ⟨rfl, rfl⟩
  case turn =>
    intro left
    rw [read]
    apply upToDate_times_refresh
    split <;> omega
  case store => rw [read, store_times_refresh]
  case emptied =>
    rw [read, watcher_times_refresh]
    exact ⟨feed.drained, rfl, rfl⟩
  case oneByOne =>
    have watchesStill : { session with agenda := [] }.watcher = some feed := watches
    rw [read, ← size, times_readNotice watchesStill]
  case rebuilds =>
    rw [read, feed_times_refresh]
    rfl

/-- A session with a watcher and no plugins. -/
def quiet : Setup :=
  { settings := .standard
    store := .empty
    emitsEvents := true
    detached := false
    clock := ⟨0, 0⟩
    model := none }

/-- Seventy events, of which six are lost, and a plugin that is switched off in silence
after all of them, when its commands are no longer due. -/
theorem catchesUp_of_watched_burst :
    let robot := Plugin.plain "robot" [⟨"greet", "", none, [], [], none⟩]
      fun _ => .done (.ok .empty)
    let burst := times (announce · .initialized) 69 ((create quiet).registerPlugin robot).1
    let session := burst.modifyPlugin "robot" fun plugin => { plugin with enabled := false }
    Watched quiet session 70 ∧ CatchesUp session 70 ∧
      session.background.registry.tables.handlerCount = 6 := by
  intro robot burst session
  have registered : Watched quiet ((create quiet).registerPlugin robot).1 1 :=
    .registered .created robot
  have watched : Watched quiet session 70 := .modified (registered.announced 69) _ _
  have catchesUp := catchesUp_of_watched rfl rfl watched
  refine ⟨watched, catchesUp, ?_⟩
  rw [catchesUp.turn (by decide)]
  decide +kernel

end Session

end ChatOps
