import ChatOps.Proofs.Assistant.Refreshing
import ChatOps.Proofs.Refreshers
import ChatOps.Proofs.Session.Watching

/-!
# Refreshing in the background

A session starts and stops refreshing its context while time goes by, and after each of these
actions everything is done that can be done in the background.  The refreshes are those of a
single ticker, begun by the latest start that no stop has followed (`keepsTime_of_actions`):
whatever was replaced or stopped before does not refresh the context again.
-/

set_option autoImplicit false

namespace ChatOps

/-! ## What is asked for, and when refreshes are due -/

/-- What a user does about refreshing in the background; and time passes. -/
inductive RefreshAction where
  | start
  | stop
  | advance (duration : Nat)

namespace RefreshAction

def duration : RefreshAction → Nat
  | .advance duration => duration
  | _ => 0

/-- How much time has passed. -/
def elapsed : List RefreshAction → Nat
  | [] => 0
  | action :: rest => action.duration + elapsed rest

/-- Whether the latest start was at a time and no stop has followed it. -/
def BegunAt (actions : List RefreshAction) (time : Nat) : Prop :=
  ∃ earlier later, actions = earlier ++ .start :: later ∧
    (∀ action ∈ later, ∃ duration, action = .advance duration) ∧ time = elapsed earlier

/-- Whether a refresh falls on an instant while an action takes place after others.  A start
lets the first one fall on the present; else only instants count that are new. -/
def DueDuring (period : Nat) (earlier : List RefreshAction) (action : RefreshAction)
    (instant : Nat) : Prop :=
  ∃ begun, BegunAt (earlier ++ [action]) begun ∧ FiresAt period begun instant ∧
    (action = .start ∨ elapsed earlier < instant) ∧ instant ≤ elapsed (earlier ++ [action])

theorem elapsed_concat (earlier : List RefreshAction) (action : RefreshAction) :
    elapsed (earlier ++ [action]) = elapsed earlier + action.duration := by
  induction earlier with
  | nil => exact Nat.add_comm ..
  | cons first rest inductionHypothesis =>
      rw [List.cons_append, elapsed, elapsed, inductionHypothesis]
      omega

/-- A start before the end of some actions is the last of them or comes before the last. -/
theorem concat_eq_append_start_iff {earlier before later : List RefreshAction}
    {action : RefreshAction} :
    earlier ++ [action] = before ++ .start :: later ↔
      later = [] ∧ action = .start ∧ earlier = before ∨
        ∃ rest, later = rest ++ [action] ∧ earlier = before ++ .start :: rest := by
  rcases List.eq_nil_or_concat later with rfl | ⟨rest, last, rfl⟩
  · simp [and_comm]
  · rw [List.concat_eq_append, ← List.cons_append, ← List.append_assoc,
      List.append_singleton_inj]
    constructor
    · rintro ⟨rfl, rfl⟩
      exact .inr ⟨rest, rfl, rfl⟩
    · rintro (⟨isEmpty, _⟩ | ⟨others, same, rfl⟩)
      · simp at isEmpty
      · obtain ⟨rfl, rfl⟩ := List.append_singleton_inj.1 same
        exact ⟨rfl, rfl⟩

theorem begunAt_concat_start {earlier : List RefreshAction} {time : Nat} :
    BegunAt (earlier ++ [.start]) time ↔ time = elapsed earlier := by
  constructor
  · rintro ⟨before, later, split, advances, rfl⟩
    rcases concat_eq_append_start_iff.1 split with ⟨_, _, rfl⟩ | ⟨rest, rfl, _⟩
    · rfl
    · obtain ⟨_, isAdvance⟩ := advances .start (by simp)
      cases isAdvance
  · rintro rfl
    exact ⟨earlier, [], rfl, by simp, rfl⟩

theorem not_begunAt_concat_stop {earlier : List RefreshAction} {time : Nat} :
    ¬BegunAt (earlier ++ [.stop]) time := by
  rintro ⟨before, later, split, advances, _⟩
  rcases concat_eq_append_start_iff.1 split with ⟨_, isStart, _⟩ | ⟨rest, rfl, _⟩
  · cases isStart
  · obtain ⟨_, isAdvance⟩ := advances .stop (by simp)
    cases isAdvance

theorem begunAt_concat_advance {earlier : List RefreshAction} {duration time : Nat} :
    BegunAt (earlier ++ [.advance duration]) time ↔ BegunAt earlier time := by
  constructor
  · rintro ⟨before, later, split, advances, rfl⟩
    rcases concat_eq_append_start_iff.1 split with ⟨_, isStart, _⟩ | ⟨rest, rfl, rfl⟩
    · cases isStart
    · exact ⟨before, rest, rfl, fun action member => advances action (by simp [member]), rfl⟩
  · rintro ⟨before, later, rfl, advances, rfl⟩
    refine ⟨before, later ++ [.advance duration], by simp, ?_, rfl⟩
    intro action member
    rcases List.mem_append.1 member with isLater | isLast
    · exact advances action isLater
    · exact ⟨duration, List.mem_singleton.1 isLast⟩

theorem not_begunAt_nil {time : Nat} : ¬BegunAt [] time := by
  rintro ⟨before, later, split, _⟩
  simp at split

/-- Refreshing goes on if there was a start since the last stop. -/
theorem exists_begunAt_iff {actions : List RefreshAction} :
    (∃ time, BegunAt actions time) ↔
      ∃ earlier later, actions = earlier ++ .start :: later ∧ .stop ∉ later := by
  induction actions using List.reverseRecOn with
  | nil => simp [not_begunAt_nil]
  | append_singleton earlier action inductionHypothesis =>
      cases action with
      | start =>
          have begun : ∃ time, BegunAt (earlier ++ [.start]) time :=
            ⟨_, begunAt_concat_start.2 rfl⟩
          exact iff_of_true begun ⟨earlier, [], rfl, List.not_mem_nil⟩
      | stop =>
          refine iff_of_false (fun ⟨_, begun⟩ => not_begunAt_concat_stop begun) ?_
          rintro ⟨before, later, split, noStop⟩
          rcases concat_eq_append_start_iff.1 split with ⟨_, isStart, _⟩ | ⟨rest, rfl, _⟩
          · cases isStart
          · exact noStop (by simp)
      | advance duration =>
          simp only [begunAt_concat_advance]
          rw [inductionHypothesis]
          constructor
          · rintro ⟨before, later, rfl, noStop⟩
            exact ⟨before, later ++ [.advance duration], by simp, by simpa using noStop⟩
          · rintro ⟨before, later, split, noStop⟩
            rcases concat_eq_append_start_iff.1 split with ⟨_, isStart, _⟩ | ⟨rest, rfl, rfl⟩
            · cases isStart
            · exact ⟨before, rest, rfl, fun stops => noStop (by simp [stops])⟩

end RefreshAction

open RefreshAction

/-! ## Several refreshes -/

namespace Assistant

/-- An assistant whose context was refreshed several times. -/
def refreshedTimes (assistant : Assistant) (store : PluginStore) (now : Instant) :
    Nat → Assistant
  | 0 => assistant
  | count + 1 => (assistant.refreshContexts store now).1.refreshedTimes store now count

variable (assistant : Assistant) (store : PluginStore) (now : Instant)

theorem refreshedTimes_add (first second : Nat) :
    assistant.refreshedTimes store now (first + second) =
      (assistant.refreshedTimes store now first).refreshedTimes store now second := by
  induction first generalizing assistant with
  | zero => rw [Nat.zero_add, refreshedTimes]
  | succ first inductionHypothesis =>
      rw [Nat.succ_add, refreshedTimes, refreshedTimes, inductionHypothesis]

/-- Refreshing has nothing to do with the engine. -/
theorem refreshedTimes_withEngine (engine : Engine) (count : Nat) :
    { assistant with engine := engine }.refreshedTimes store now count =
      { assistant.refreshedTimes store now count with engine := engine } := by
  induction count generalizing assistant with
  | zero => rfl
  | succ count inductionHypothesis =>
      rw [refreshedTimes, refreshedTimes, ← inductionHypothesis]
      rfl

theorem settings_refreshedTimes (count : Nat) :
    (assistant.refreshedTimes store now count).settings = assistant.settings := by
  induction count generalizing assistant with
  | zero => rfl
  | succ count inductionHypothesis => exact inductionHypothesis _

/-- Each refresh is announced once. -/
theorem announced_refreshedTimes (count : Nat) :
    (assistant.refreshedTimes store now count).feed.missed +
        (assistant.refreshedTimes store now count).feed.events.length =
      assistant.feed.missed + assistant.feed.events.length + count := by
  induction count generalizing assistant with
  | zero => rfl
  | succ count inductionHypothesis =>
      have once := assistant.feed.missed_add_length_push (assistant.refreshContexts store now).2
      have pushed : (assistant.refreshContexts store now).1.feed =
          assistant.feed.push (assistant.refreshContexts store now).2 := rfl
      rw [refreshedTimes, inductionHypothesis, pushed, once]
      omega

end Assistant

/-! ## What goes on in the background -/

/-- The refresher that a chore runs. -/
def Chore.refresher? : Chore → Option Nat
  | .refresh serial => some serial
  | _ => none

namespace Session

/-- What has become of a session that has refreshed its context several times, whatever else
has happened to its engine. -/
structure Refreshed (before : Session) (refreshers : Refreshers) (count : Nat)
    (after : Session) : Prop where
  refreshers : after.refreshers = refreshers
  time : after.time = before.time
  agenda : after.agenda = before.agenda
  store : after.store = before.store
  clock : after.clock = before.clock
  assistant : ∃ engine, after.assistant =
    { before.assistant.refreshedTimes before.store before.clock count with engine := engine }

variable {session middle after : Session} {refreshers later : Refreshers} {count more : Nat}

theorem Refreshed.trans (first : Refreshed session refreshers count middle)
    (second : Refreshed middle later more after) :
    Refreshed session later (count + more) after where
  refreshers := second.refreshers
  time := second.time.trans first.time
  agenda := second.agenda.trans first.agenda
  store := second.store.trans first.store
  clock := second.clock.trans first.clock
  assistant := by
    obtain ⟨engine, firstAssistant⟩ := first.assistant
    obtain ⟨other, secondAssistant⟩ := second.assistant
    refine ⟨other, ?_⟩
    rw [secondAssistant, first.store, first.clock, firstAssistant,
      Assistant.refreshedTimes_withEngine, Assistant.refreshedTimes_add]

theorem Refreshed.settings (refreshed : Refreshed session refreshers count after) :
    after.assistant.settings = session.assistant.settings := by
  obtain ⟨engine, assistant⟩ := refreshed.assistant
  rw [assistant]
  exact Assistant.settings_refreshedTimes ..

theorem refreshed_refresh (session : Session) :
    Refreshed session session.refreshers 0 session.refresh :=
  ⟨rfl, rfl, rfl, rfl, rfl, _, rfl⟩

theorem refreshed_times_refresh (count : Nat) (session : Session) :
    Refreshed session session.refreshers 0 (times refresh count session) := by
  induction count generalizing session with
  | zero => exact ⟨rfl, rfl, rfl, rfl, rfl, _, rfl⟩
  | succ count inductionHypothesis =>
      exact (refreshed_refresh session).trans (inductionHypothesis session.refresh)

theorem refreshed_followLifecycle (session : Session) :
    Refreshed session session.refreshers 0 session.followLifecycle := by
  unfold followLifecycle
  split
  · next feed watches =>
      have drained : Refreshed session session.refreshers 0
          { session with watcher := some feed.drained } := ⟨rfl, rfl, rfl, rfl, rfl, _, rfl⟩
      exact drained.trans (refreshed_times_refresh _ _)
  · exact ⟨rfl, rfl, rfl, rfl, rfl, _, rfl⟩

theorem refreshed_poll (session : Session) :
    Refreshed session session.refreshers 0 session.poll := by
  unfold poll
  split
  · split
    · exact ⟨rfl, rfl, rfl, rfl, rfl, _, rfl⟩
    · exact ⟨rfl, rfl, rfl, rfl, rfl, _, rfl⟩
  · exact ⟨rfl, rfl, rfl, rfl, rfl, _, rfl⟩

theorem refreshed_resume (session : Session) (serial : Nat) :
    Refreshed session session.refreshers 0 (session.resume serial) := by
  unfold resume
  split
  · dsimp only
    split
    · exact ⟨rfl, rfl, rfl, rfl, rfl, _, rfl⟩
    · exact ⟨rfl, rfl, rfl, rfl, rfl, _, rfl⟩
  · exact ⟨rfl, rfl, rfl, rfl, rfl, _, rfl⟩

theorem refreshed_times_refreshContexts (count : Nat) (session : Session) :
    Refreshed session session.refreshers count
      (times (fun current => current.refreshContexts.1) count session) := by
  induction count generalizing session with
  | zero => exact ⟨rfl, rfl, rfl, rfl, rfl, _, rfl⟩
  | succ count inductionHypothesis =>
      have once : Refreshed session session.refreshers 1 session.refreshContexts.1 :=
        ⟨rfl, rfl, rfl, rfl, rfl, _, rfl⟩
      have all := once.trans (inductionHypothesis session.refreshContexts.1)
      rw [Nat.add_comm 1 count] at all
      exact all

theorem refreshed_perform (session : Session) (chore : Chore) :
    Refreshed session
      (session.refreshers.runAll session.time chore.refresher?.toList).1
      (session.refreshers.runAll session.time chore.refresher?.toList).2
      (session.perform chore) := by
  cases chore with
  | rebuild => exact refreshed_followLifecycle session
  | poll => exact refreshed_poll session
  | resume serial => exact refreshed_resume session serial
  | refresh serial =>
      have moved : Refreshed session (session.refreshers.run serial session.time).1 0
          { session with refreshers := (session.refreshers.run serial session.time).1 } :=
        ⟨rfl, rfl, rfl, rfl, rfl, _, rfl⟩
      have ticked := moved.trans (refreshed_times_refreshContexts
        (session.refreshers.run serial session.time).2 _)
      rw [Nat.zero_add] at ticked
      exact ticked

/-- The context is refreshed by the refreshers on the agenda and by nothing else. -/
theorem refreshed_foldl_perform (agenda : List Chore) (session : Session) :
    Refreshed session
      (session.refreshers.runAll session.time (agenda.filterMap Chore.refresher?)).1
      (session.refreshers.runAll session.time (agenda.filterMap Chore.refresher?)).2
      (agenda.foldl perform session) := by
  induction agenda generalizing session with
  | nil => exact ⟨rfl, rfl, rfl, rfl, rfl, _, rfl⟩
  | cons chore rest inductionHypothesis =>
      have first := refreshed_perform session chore
      have others := inductionHypothesis (session.perform chore)
      rw [first.refreshers, first.time] at others
      have all := first.trans others
      rw [List.foldl_cons]
      cases found : chore.refresher? with
      | none =>
          rw [List.filterMap_cons_none found]
          rw [found] at all
          simpa [Refreshers.runAll] using all
      | some serial =>
          rw [List.filterMap_cons_some found]
          rw [found] at all
          simpa [Refreshers.runAll] using all

/-! ## Planning -/

theorem plan_eq (session : Session) (chore : Chore) :
    session.plan chore = { session with agenda := (session.plan chore).agenda } := by
  unfold plan
  split <;> rfl

theorem planRefreshers_eq (session : Session) (serials : List Nat) :
    session.planRefreshers serials =
      { session with agenda := (session.planRefreshers serials).agenda } := by
  unfold planRefreshers
  induction serials generalizing session with
  | nil => rfl
  | cons serial rest inductionHypothesis =>
      rw [List.foldl_cons, inductionHypothesis, plan_eq]

theorem refreshers_planned (session : Session) {serials : List Nat}
    (apart : (session.agenda.filterMap Chore.refresher? ++ serials).Nodup) :
    (session.planRefreshers serials).agenda.filterMap Chore.refresher? =
      session.agenda.filterMap Chore.refresher? ++ serials := by
  unfold planRefreshers
  induction serials generalizing session with
  | nil => simp
  | cons serial rest inductionHypothesis =>
      have unplanned : Chore.refresh serial ∉ session.agenda := by
        intro planned
        have member : serial ∈ session.agenda.filterMap Chore.refresher? :=
          List.mem_filterMap.2 ⟨_, planned, rfl⟩
        exact (List.nodup_append.1 apart).2.2 serial member serial List.mem_cons_self rfl
      have planned : (session.plan (.refresh serial)).agenda =
          session.agenda ++ [.refresh serial] := by
        simp [plan, unplanned]
      have one : (session.plan (.refresh serial)).agenda.filterMap Chore.refresher? =
          session.agenda.filterMap Chore.refresher? ++ [serial] := by
        rw [planned, List.filterMap_append]
        rfl
      rw [List.foldl_cons, inductionHypothesis, one, List.append_assoc]
      · rfl
      · rw [one, List.append_assoc]
        exact apart

theorem refreshed_background (session : Session) {serials : List Nat}
    (unplanned : session.agenda.filterMap Chore.refresher? = []) (apart : serials.Nodup) :
    Refreshed { session with agenda := [] }
      (session.refreshers.runAll session.time serials).1
      (session.refreshers.runAll session.time serials).2
      (session.planRefreshers serials).background := by
  have planned : (session.planRefreshers serials).agenda.filterMap Chore.refresher? =
      serials := by
    rw [refreshers_planned session (by rwa [unplanned]), unplanned, List.nil_append]
  have performed := refreshed_foldl_perform (session.planRefreshers serials).agenda
    { session with agenda := [] }
  rw [planned] at performed
  rw [background, planRefreshers_eq]
  exact performed

theorem planPoll_eq (session : Session) :
    session.planPoll = { session with agenda := session.planPoll.agenda } := by
  unfold planPoll
  split
  · split
    · exact plan_eq session .poll
    · rfl
  · rfl

theorem planPoll_refreshers (session : Session) :
    session.planPoll.agenda.filterMap Chore.refresher? =
      session.agenda.filterMap Chore.refresher? := by
  unfold planPoll plan
  split
  · split
    · split
      · rfl
      · simp [Chore.refresher?]
    · rfl
  · rfl

/-! ## Actions -/

/-- What an action does by itself. -/
def request (session : Session) : RefreshAction → Session
  | .start => session.startRefresh
  | .stop => session.stopRefresh.1
  | .advance duration => session.advance duration

/-- An action, and then all that can be done in the background. -/
def act (session : Session) (action : RefreshAction) : Session :=
  (session.request action).background

def actAll (session : Session) (actions : List RefreshAction) : Session :=
  actions.foldl act session

theorem refreshers_request (session : Session) (action : RefreshAction) :
    (session.request action).refreshers =
      match action with
      | .start => session.refreshers.start session.assistant.settings.refreshInterval
      | .stop => session.refreshers.abort
      | .advance _ => session.refreshers := by
  cases action with
  | start => rw [request, startRefresh, planRefreshers_eq]
  | stop => rw [request, stopRefresh, planRefreshers_eq]
  | advance duration =>
      rw [request, advance, planRefresh, planRefreshers_eq, planPoll_eq]

theorem sound_request (sound : session.refreshers.Sound) (action : RefreshAction) :
    (session.request action).refreshers.Sound := by
  rw [refreshers_request]
  cases action with
  | start => exact sound.start _
  | stop => exact sound.abort
  | advance duration => exact sound

theorem sound_background (sound : session.refreshers.Sound) :
    session.background.refreshers.Sound := by
  rw [background, (refreshed_foldl_perform session.agenda _).refreshers]
  exact sound.runAll _ _

theorem sound_actAll (sound : session.refreshers.Sound) (actions : List RefreshAction) :
    (session.actAll actions).refreshers.Sound := by
  induction actions generalizing session with
  | nil => exact sound
  | cons action rest inductionHypothesis =>
      exact inductionHypothesis (sound_background (sound_request sound action))

variable {serial : Nat}

theorem retired_background (retired : session.refreshers.Retired serial) :
    session.background.refreshers.Retired serial := by
  rw [background, (refreshed_foldl_perform session.agenda _).refreshers]
  exact retired.runAll _ _

/-- A refresher is retired by a start and by a stop. -/
theorem retired_act_of_spawned (spawned : serial < session.refreshers.spawned)
    {action : RefreshAction} (ends : action = .start ∨ action = .stop) :
    (session.act action).refreshers.Retired serial := by
  apply retired_background
  rw [refreshers_request]
  rcases ends with rfl | rfl
  · exact Refreshers.retired_start spawned _
  · exact Refreshers.retired_abort spawned

theorem retired_actAll (retired : session.refreshers.Retired serial)
    (actions : List RefreshAction) : (session.actAll actions).refreshers.Retired serial := by
  induction actions generalizing session with
  | nil => exact retired
  | cons action rest inductionHypothesis =>
      apply inductionHypothesis
      cases action with
      | start => exact retired_act_of_spawned retired.spawned (.inl rfl)
      | stop => exact retired_act_of_spawned retired.spawned (.inr rfl)
      | advance duration =>
          apply retired_background
          rw [refreshers_request]
          exact retired

/-- The refreshers that run in the background after an action. -/
def toRun (session : Session) : RefreshAction → List Nat
  | .start => session.refreshers.spawned :: session.refreshers.running.toList
  | .stop => session.refreshers.running.toList
  | .advance duration => session.refreshers.due (session.time + duration)

theorem refreshed_act (idle : session.agenda = []) (action : RefreshAction)
    (apart : (session.toRun action).Nodup) :
    let asked := (session.request action).refreshers
    let now := session.time + action.duration
    Refreshed { session with refreshers := asked, time := now }
      (asked.runAll now (session.toRun action)).1 (asked.runAll now (session.toRun action)).2
      (session.act action) := by
  rw [refreshers_request]
  have unplanned : session.agenda.filterMap Chore.refresher? = [] := by rw [idle]; rfl
  cases action with
  | start =>
      have ran := refreshed_background
        { session with
          refreshers := session.refreshers.start session.assistant.settings.refreshInterval }
        unplanned apart
      rw [← idle] at ran
      exact ran
  | stop =>
      have ran := refreshed_background { session with refreshers := session.refreshers.abort }
        unplanned apart
      rw [← idle] at ran
      exact ran
  | advance duration =>
      have polled := planPoll_refreshers { session with time := session.time + duration }
      have same := planPoll_eq { session with time := session.time + duration }
      have ran := refreshed_background _ (polled.trans unplanned) apart
      rw [act, request, advance, planRefresh]
      rw [same, ← idle] at ran
      rw [same]
      exact ran

/-- Whether refreshing goes on as was asked for, and nothing is left to be done. -/
structure InOrder (interval : Nat) (actions : List RefreshAction) (session : Session) :
    Prop where
  agenda : session.agenda = []
  time : session.time = elapsed actions
  configured : session.assistant.settings.refreshInterval = interval
  attended : ∃ begun, (∀ time, begun = some time ↔ BegunAt actions time) ∧
    Refreshers.Attended interval session.time session.refreshers begun

theorem create_idle (setup : Setup) :
    (create setup).refreshers = .empty ∧ (create setup).time = 0 ∧
      (create setup).assistant.settings = setup.settings ∧
      (create setup).agenda.filterMap Chore.refresher? = [] := by
  unfold create
  refine ⟨?_, ?_, ?_, planPoll_refreshers _⟩
  · rw [planPoll_eq]
  · rw [planPoll_eq]
  · rw [planPoll_eq]
    rfl

/-- A session that has just been set up refreshes nothing. -/
theorem inOrder_create (setup : Setup) :
    InOrder setup.settings.refreshInterval [] (create setup).background ∧
      ∃ engine, (create setup).background.assistant =
        { (create setup).assistant with engine := engine } := by
  obtain ⟨noRefreshers, atZero, settings, unplanned⟩ := create_idle setup
  have ran := refreshed_background (create setup) unplanned List.nodup_nil
  obtain ⟨engine, assistant⟩ := ran.assistant
  refine ⟨⟨ran.agenda, ran.time.trans atZero, ?_, none, ?_, ?_⟩, engine, assistant⟩
  · rw [← settings]
    exact congrArg Settings.refreshInterval ran.settings
  · intro time
    exact iff_of_false (Option.some_ne_none time).symm not_begunAt_nil
  · have idle := ran.refreshers.trans noRefreshers
    rw [show (create setup).background.refreshers = .empty from idle]
    exact .idle 0

variable {interval : Nat} {actions : List RefreshAction}

/-- Whether the refreshers that run after an action fire for these instants, the right ones,
and leave nothing to be done. -/
structure Fires (interval : Nat) (actions : List RefreshAction) (session : Session)
    (action : RefreshAction) (instants : List Nat) : Prop where
  distinct : (session.toRun action).Nodup
  sorted : instants.Pairwise (· < ·)
  due : ∀ instant, instant ∈ instants ↔
    DueDuring (max interval Ticker.leastPeriod) actions action instant
  ran : ∃ begun after,
    (∀ time, begun = some time ↔ BegunAt (actions ++ [action]) time) ∧
    (session.request action).refreshers.runAll (session.time + action.duration)
      (session.toRun action) = (after, instants.length) ∧
    Refreshers.Attended interval (session.time + action.duration) after begun

theorem InOrder.fires_start (inOrder : InOrder interval actions session) :
    Fires interval actions session .start [session.time] := by
  obtain ⟨begun, _, attended⟩ := inOrder.attended
  obtain ⟨after, ran, attendedAfter⟩ := attended.start
  refine ⟨attended.nodup_started, List.pairwise_singleton _ _, ?_, some session.time, after, ?_,
    ?_, attendedAfter⟩
  · intro instant
    simp only [DueDuring, begunAt_concat_start, elapsed_concat, ← inOrder.time, duration, FiresAt,
      List.mem_singleton, true_or, true_and, exists_eq_left, Nat.add_zero]
    constructor
    · rintro rfl
      exact ⟨⟨0, by omega⟩, Nat.le_refl _⟩
    · rintro ⟨⟨count, rfl⟩, reached⟩
      omega
  · intro time
    rw [begunAt_concat_start, ← inOrder.time, Option.some.injEq, eq_comm]
  · rw [refreshers_request, inOrder.configured]
    exact ran

theorem InOrder.fires_stop (inOrder : InOrder interval actions session) :
    Fires interval actions session .stop [] := by
  obtain ⟨begun, _, attended⟩ := inOrder.attended
  obtain ⟨after, ran, attendedAfter⟩ := attended.abort
  refine ⟨attended.nodup_started.of_cons, .nil, ?_, none, after, ?_, ?_, attendedAfter⟩
  · intro instant
    refine iff_of_false List.not_mem_nil ?_
    rintro ⟨time, begunAfter, _⟩
    exact not_begunAt_concat_stop begunAfter
  · intro time
    exact iff_of_false (Option.some_ne_none time).symm not_begunAt_concat_stop
  · rw [refreshers_request]
    exact ran

theorem InOrder.fires_advance (inOrder : InOrder interval actions session) (duration : Nat) :
    ∃ instants, Fires interval actions session (.advance duration) instants := by
  obtain ⟨begun, isBegun, attended⟩ := inOrder.attended
  obtain ⟨after, instants, ran, attendedAfter, sorted, fires⟩ :=
    attended.later (Nat.le_add_right session.time duration)
  refine ⟨instants, attended.nodup_due _, sorted, ?_, begun, after, ?_, ?_, attendedAfter⟩
  · intro instant
    rw [fires]
    simp only [DueDuring, begunAt_concat_advance, elapsed_concat, ← inOrder.time, isBegun,
      reduceCtorEq, false_or]
    rfl
  · intro time
    rw [isBegun, begunAt_concat_advance]
  · rw [refreshers_request]
    exact ran

/-- After one action, the context has been refreshed once for each instant. -/
theorem InOrder.act_of_fires (inOrder : InOrder interval actions session)
    {action : RefreshAction} {instants : List Nat}
    (fires : Fires interval actions session action instants) :
    InOrder interval (actions ++ [action]) (session.act action) ∧
      ∃ engine, (session.act action).assistant =
        { session.assistant.refreshedTimes session.store session.clock instants.length with
          engine := engine } := by
  obtain ⟨begun, after, isBegun, ran, attended⟩ := fires.ran
  have refreshed := refreshed_act inOrder.agenda action fires.distinct
  dsimp only at refreshed
  rw [ran] at refreshed
  refine ⟨⟨refreshed.agenda.trans inOrder.agenda, refreshed.time.trans ?_, ?_, begun, isBegun, ?_⟩,
    refreshed.assistant⟩
  · rw [elapsed_concat, ← inOrder.time]
  · rw [refreshed.settings]
    exact inOrder.configured
  · rw [refreshed.time, refreshed.refreshers]
    exact attended

theorem InOrder.exists_fires (inOrder : InOrder interval actions session)
    (action : RefreshAction) : ∃ instants, Fires interval actions session action instants := by
  cases action with
  | start => exact ⟨_, inOrder.fires_start⟩
  | stop => exact ⟨_, inOrder.fires_stop⟩
  | advance duration => exact inOrder.fires_advance duration

theorem inOrder_actAll (inOrder : InOrder interval [] session) (actions : List RefreshAction) :
    InOrder interval actions (session.actAll actions) := by
  induction actions using List.reverseRecOn with
  | nil => exact inOrder
  | append_singleton earlier action inductionHypothesis =>
      rw [actAll, List.foldl_append]
      obtain ⟨instants, fires⟩ := inductionHypothesis.exists_fires action
      exact (inductionHypothesis.act_of_fires fires).1

/-- What is promised of refreshing in the background after some actions, whatever is done
next. -/
structure KeepsTime (interval : Nat) (actions : List RefreshAction) (session : Session) :
    Prop where
  single : session.refreshers.alive.length ≤ 1 ∧
    ∀ action, (session.request action).refreshers.alive.length ≤ 1
  refreshed : ∀ action, ∃ instants : List Nat, instants.Pairwise (· < ·) ∧
    (∀ instant, instant ∈ instants ↔ DueDuring (max interval 10) actions action instant) ∧
    (∃ engine, (session.act action).assistant =
      { session.assistant.refreshedTimes session.store session.clock instants.length with
        engine := engine }) ∧
    (session.act action).assistant.feed.missed +
        (session.act action).assistant.feed.events.length =
      session.assistant.feed.missed + session.assistant.feed.events.length + instants.length
  retired : ∀ action, action = .start ∨ action = .stop →
    ∀ serial < session.refreshers.spawned, ∀ later now,
      (((session.act action).actAll later).refreshers.run serial now).2 = 0
  stopped : session.stopRefresh.2 = true ↔
    ∃ earlier later, actions = earlier ++ .start :: later ∧ .stop ∉ later

theorem keepsTime_of_actions (setup : Setup) :
    (∃ engine, (create setup).background.assistant =
      { (create setup).assistant with engine := engine }) ∧
    ∀ actions, KeepsTime setup.settings.refreshInterval actions
      ((create setup).background.actAll actions) := by
  obtain ⟨created, unchanged⟩ := inOrder_create setup
  refine ⟨unchanged, fun actions => ?_⟩
  have inOrder := inOrder_actAll created actions
  have sound : ((create setup).background.actAll actions).refreshers.Sound := by
    apply sound_actAll
    apply sound_background
    rw [(create_idle setup).1]
    exact Refreshers.sound_empty
  generalize (create setup).background.actAll actions = session at inOrder sound
  constructor
  case single =>
    exact ⟨sound.length_alive_le, fun action => (sound_request sound action).length_alive_le⟩
  case refreshed =>
    intro action
    obtain ⟨instants, fires⟩ := inOrder.exists_fires action
    obtain ⟨_, engine, assistant⟩ := inOrder.act_of_fires fires
    refine ⟨instants, fires.sorted, fires.due, ⟨engine, assistant⟩, ?_⟩
    rw [assistant]
    exact Assistant.announced_refreshedTimes ..
  case retired =>
    intro action ends serial spawned later now
    have retired := retired_actAll (retired_act_of_spawned spawned ends) later
    have soundAfter := sound_actAll (sound_background (sound_request sound action)) later
    exact retired.firings_run soundAfter now
  case stopped =>
    obtain ⟨begun, isBegun, attended⟩ := inOrder.attended
    rw [← exists_begunAt_iff, stopRefresh, attended.isSome_running, Option.isSome_iff_exists]
    simp only [isBegun]

example :
    let setup := { quiet with settings := { Settings.standard with refreshInterval := 20 } }
    let session := (create setup).background.actAll
      [.start, .advance 45, .start, .advance 5, .stop, .advance 100]
    session.assistant.feed.events.length = 4 ∧ session.refreshers.tasks.length = 0 := by
  decide +kernel

end Session

end ChatOps
