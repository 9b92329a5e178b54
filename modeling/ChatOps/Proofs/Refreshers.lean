import ChatOps.Refresher
import Mathlib.Data.List.Nodup
import Mathlib.Data.List.Range

/-!
# Refreshers and their tickers

Refreshers are started, stopped and run in any order.  Whatever the order, only the one that
was spawned last and was not stopped is alive (`Sound`), and one that was replaced or stopped
never fires again (`Retired`).  Where all have run that can, there is none at all or a single
one whose ticker waits for its next instant (`Attended`), and running it until a later time
makes it fire for exactly those instants of its ticker that have come in the meantime.
-/

set_option autoImplicit false

namespace ChatOps

/-- Whether an instant is one of a ticker that has begun at a time. -/
def FiresAt (period begun instant : Nat) : Prop := ∃ count, instant = begun + count * period

namespace Ticker

/-- The instants for which a ticker fires by a time. -/
def instants (ticker : Ticker) (now : Nat) : List Nat :=
  (List.range (ticker.firings now)).map fun count => ticker.due + count * ticker.period

theorem length_instants (ticker : Ticker) (now : Nat) :
    (ticker.instants now).length = ticker.firings now := by
  simp [instants]

theorem pairwise_instants (ticker : Ticker) (now : Nat) :
    (ticker.instants now).Pairwise (· < ·) := by
  rw [instants, List.pairwise_map]
  refine List.pairwise_lt_range.imp ?_
  intro first second before
  have further := Nat.mul_lt_mul_of_pos_right before ticker.positive
  omega

theorem lt_firings_iff (ticker : Ticker) (now count : Nat) :
    count < ticker.firings now ↔ ticker.due + count * ticker.period ≤ now := by
  unfold firings
  split
  · next reached =>
      rw [Nat.lt_succ_iff, Nat.le_div_iff_mul_le ticker.positive]
      omega
  · next early => omega

theorem mem_instants_iff {ticker : Ticker} {now instant : Nat} :
    instant ∈ ticker.instants now ↔
      FiresAt ticker.period ticker.due instant ∧ instant ≤ now := by
  simp only [instants, List.mem_map, List.mem_range, lt_firings_iff, FiresAt]
  constructor
  · rintro ⟨count, reached, rfl⟩
    exact ⟨⟨count, rfl⟩, reached⟩
  · rintro ⟨⟨count, rfl⟩, reached⟩
    exact ⟨count, reached, rfl⟩

/-- Whether a ticker that has begun at a time waits for its first instant after now. -/
structure Awaits (ticker : Ticker) (period begun now : Nat) : Prop where
  samePeriod : ticker.period = period
  scheduled : FiresAt period begun ticker.due
  ahead : now < ticker.due
  nearest : ticker.due ≤ now + period

theorem awaits_after {ticker : Ticker} {period begun now : Nat}
    (samePeriod : ticker.period = period) (scheduled : FiresAt period begun ticker.due)
    (near : ticker.due ≤ now + period) : (ticker.after now).Awaits period begun now := by
  subst samePeriod
  obtain ⟨count, due⟩ := scheduled
  refine ⟨rfl, ⟨count + ticker.firings now, ?_⟩, ticker.lt_due_after now, ?_⟩
  · change ticker.due + ticker.firings now * ticker.period = _
    rw [due, Nat.add_mul, Nat.add_assoc]
  · change ticker.due + ticker.firings now * ticker.period ≤ now + ticker.period
    cases fired : ticker.firings now with
    | zero => omega
    | succ earlier =>
        have reached := (ticker.lt_firings_iff now earlier).1 (by omega)
        rw [Nat.succ_mul]
        omega

theorem Awaits.later {ticker : Ticker} {period begun before now : Nat}
    (awaits : ticker.Awaits period begun before) (passed : before ≤ now) :
    (ticker.after now).Awaits period begun now := by
  apply awaits_after awaits.samePeriod awaits.scheduled
  have near := awaits.nearest
  omega

/-- What a ticker fires for are the instants since it was last attended to. -/
theorem Awaits.mem_instants_iff {ticker : Ticker} {period begun before now instant : Nat}
    (awaits : ticker.Awaits period begun before) :
    instant ∈ ticker.instants now ↔
      FiresAt period begun instant ∧ before < instant ∧ instant ≤ now := by
  rw [Ticker.mem_instants_iff, awaits.samePeriod]
  obtain ⟨done, due⟩ := awaits.scheduled
  have ahead := awaits.ahead
  have near := awaits.nearest
  constructor
  · rintro ⟨⟨count, rfl⟩, reached⟩
    refine ⟨⟨done + count, ?_⟩, by omega, reached⟩
    rw [due, Nat.add_mul]
    omega
  · rintro ⟨⟨count, rfl⟩, since, reached⟩
    -- An instant before the next one would be one before now, too.
    have further : done ≤ count := by
      by_contra short
      have step := Nat.mul_le_mul_right period (Nat.lt_of_not_le short)
      rw [Nat.succ_mul] at step
      omega
    refine ⟨⟨count - done, ?_⟩, reached⟩
    rw [due, Nat.add_assoc, ← Nat.add_mul, Nat.add_sub_of_le further]

theorem instants_start (period now : Nat) : (start period now).instants now = [now] := by
  simp [instants, firings, start]

theorem awaits_start (period now : Nat) :
    ((start period now).after now).Awaits (max period leastPeriod) now now :=
  awaits_after rfl ⟨0, by simp [start]⟩ (by simp [start])

end Ticker

namespace Refreshers

variable {refreshers : Refreshers} {serial : Nat}

/-- The refreshers that were not aborted. -/
def alive (refreshers : Refreshers) : List Refresher :=
  refreshers.tasks.filter fun task => !task.aborted

/-! ## Any order of starts, stops and runs -/

/-- Whether no refresher is alive but the one that can be stopped. -/
structure Sound (refreshers : Refreshers) : Prop where
  known : ∀ task ∈ refreshers.tasks, task.serial < refreshers.spawned
  distinct : refreshers.tasks.Pairwise fun first second => first.serial ≠ second.serial
  alive : ∀ task ∈ refreshers.tasks, task.aborted = false →
    refreshers.running = some task.serial

theorem sound_empty : empty.Sound := ⟨by simp [empty], .nil, by simp [empty]⟩

/-- Steps that change single refreshers, at most aborting them or moving their tickers on. -/
theorem Sound.map (sound : refreshers.Sound) {change : Refresher → Refresher}
    {running : Option Nat} (serials : ∀ task, (change task).serial = task.serial)
    (stillAlive : ∀ task ∈ refreshers.tasks, (change task).aborted = false →
      task.aborted = false ∧ running = refreshers.running) :
    (⟨refreshers.tasks.map change, running, refreshers.spawned⟩ : Refreshers).Sound := by
  refine ⟨?_, ?_, ?_⟩
  · intro task member
    obtain ⟨before, isMember, rfl⟩ := List.mem_map.1 member
    rw [serials]
    exact sound.known before isMember
  · refine List.Pairwise.map change ?_ sound.distinct
    intro first second different
    rwa [serials, serials]
  · intro task member notAborted
    obtain ⟨before, isMember, rfl⟩ := List.mem_map.1 member
    obtain ⟨wasAlive, same⟩ := stillAlive before isMember notAborted
    change running = _
    rw [serials, same]
    exact sound.alive before isMember wasAlive

theorem aborted_abort (sound : refreshers.Sound) :
    ∀ task ∈ refreshers.abort.tasks, task.aborted = true := by
  intro task member
  obtain ⟨before, isMember, rfl⟩ := List.mem_map.1 member
  split
  · rfl
  · next other =>
      by_contra notAborted
      exact other (sound.alive before isMember (eq_false_of_ne_true notAborted))

theorem Sound.abort (sound : refreshers.Sound) : refreshers.abort.Sound := by
  refine sound.map (fun task => by split <;> rfl) ?_
  intro task member notAborted
  have aborted := aborted_abort sound _ (List.mem_map_of_mem member)
  rw [aborted] at notAborted
  cases notAborted

theorem Sound.start (sound : refreshers.Sound) (period : Nat) :
    (refreshers.start period).Sound := by
  have before := sound.abort
  refine ⟨?_, ?_, ?_⟩
  · intro task member
    rcases List.mem_append.1 member with older | new
    · exact Nat.lt_succ_of_lt (before.known task older)
    · rw [List.mem_singleton.1 new]
      exact Nat.lt_succ_self _
  · refine List.pairwise_append.2 ⟨before.distinct, List.pairwise_singleton _ _, ?_⟩
    intro older member new isNew
    rw [List.mem_singleton.1 isNew]
    exact Nat.ne_of_lt (before.known older member)
  · intro task member notAborted
    rcases List.mem_append.1 member with older | new
    · rw [aborted_abort sound task older] at notAborted
      cases notAborted
    · rw [List.mem_singleton.1 new]
      rfl

theorem Sound.run (sound : refreshers.Sound) (serial now : Nat) :
    (refreshers.run serial now).1.Sound := by
  unfold Refreshers.run
  split
  · split
    · exact ⟨fun task member => sound.known task (List.mem_of_mem_filter member),
        sound.distinct.filter _,
        fun task member => sound.alive task (List.mem_of_mem_filter member)⟩
    · refine sound.map (fun task => by split <;> rfl) ?_
      intro task member notAborted
      refine ⟨?_, rfl⟩
      revert notAborted
      split <;> exact id
  · exact sound

theorem Sound.length_alive_le (sound : refreshers.Sound) : refreshers.alive.length ≤ 1 := by
  have distinct : refreshers.alive.Pairwise fun first second => first.serial ≠ second.serial :=
    sound.distinct.filter _
  have running : ∀ task ∈ refreshers.alive, refreshers.running = some task.serial := by
    intro task member
    obtain ⟨isMember, notAborted⟩ := List.mem_filter.1 member
    exact sound.alive task isMember (by simpa using notAborted)
  match shape : refreshers.alive with
  | [] => exact Nat.zero_le 1
  | [_] => exact Nat.le_refl 1
  | first :: second :: rest =>
      rw [shape] at distinct running
      have same := (running first (by simp)).symm.trans (running second (by simp))
      exact absurd (Option.some.inj same) ((List.pairwise_cons.1 distinct).1 second (by simp))

/-- Whether a refresher was replaced or stopped. -/
structure Retired (refreshers : Refreshers) (serial : Nat) : Prop where
  spawned : serial < refreshers.spawned
  notRunning : refreshers.running ≠ some serial

theorem spawned_run (refreshers : Refreshers) (serial now : Nat) :
    (refreshers.run serial now).1.spawned = refreshers.spawned := by
  unfold run
  split
  · split <;> rfl
  · rfl

theorem running_run (refreshers : Refreshers) (serial now : Nat) :
    (refreshers.run serial now).1.running = refreshers.running := by
  unfold run
  split
  · split <;> rfl
  · rfl

theorem retired_abort (spawned : serial < refreshers.spawned) :
    refreshers.abort.Retired serial :=
  ⟨spawned, by simp [abort]⟩

theorem retired_start (spawned : serial < refreshers.spawned) (period : Nat) :
    (refreshers.start period).Retired serial := by
  refine ⟨Nat.lt_succ_of_lt spawned, ?_⟩
  simp only [start, ne_eq, Option.some.injEq]
  omega

theorem Retired.run (retired : refreshers.Retired serial) (other now : Nat) :
    (refreshers.run other now).1.Retired serial :=
  ⟨by rw [spawned_run]; exact retired.spawned, by rw [running_run]; exact retired.notRunning⟩

theorem Retired.firings_run (retired : refreshers.Retired serial) (sound : refreshers.Sound)
    (now : Nat) : (refreshers.run serial now).2 = 0 := by
  unfold Refreshers.run
  split
  · next task found =>
      split
      · rfl
      · next notAborted =>
          have named : task.serial = serial := by simpa using List.find?_some found
          have alive := sound.alive task (List.mem_of_find?_eq_some found)
            (by simpa using notAborted)
          rw [named] at alive
          exact absurd alive retired.notRunning
  · rfl

/-! ## Running all that can run -/

/-- Run refreshers one after another, and say how often they fire altogether. -/
def runAll (refreshers : Refreshers) (now : Nat) : List Nat → Refreshers × Nat
  | [] => (refreshers, 0)
  | serial :: rest =>
      let first := refreshers.run serial now
      let others := first.1.runAll now rest
      (others.1, first.2 + others.2)

theorem Sound.runAll (sound : refreshers.Sound) (now : Nat) (serials : List Nat) :
    (refreshers.runAll now serials).1.Sound := by
  induction serials generalizing refreshers with
  | nil => exact sound
  | cons serial rest inductionHypothesis => exact inductionHypothesis (sound.run serial now)

theorem Retired.runAll (retired : refreshers.Retired serial) (now : Nat) (serials : List Nat) :
    (refreshers.runAll now serials).1.Retired serial := by
  induction serials generalizing refreshers with
  | nil => exact retired
  | cons other rest inductionHypothesis => exact inductionHypothesis (retired.run other now)

/-- Whether all have run that can: there is no refresher, or a single one, whose ticker has
begun at a time and waits for its first instant after now. -/
inductive Attended (interval now : Nat) : Refreshers → Option Nat → Prop where
  | idle (spawned : Nat) : Attended interval now ⟨[], none, spawned⟩ none
  | ticking {serial spawned begun : Nat} {ticker : Ticker} (known : serial < spawned)
      (awaits : ticker.Awaits (max interval Ticker.leastPeriod) begun now) :
      Attended interval now ⟨[⟨serial, interval, some ticker, false⟩], some serial, spawned⟩
        (some begun)

variable {interval before now : Nat} {begun : Option Nat}

theorem Attended.isSome_running (attended : Attended interval now refreshers begun) :
    refreshers.running.isSome = begun.isSome := by
  cases attended <;> rfl

theorem Attended.nodup_started (attended : Attended interval now refreshers begun) :
    (refreshers.spawned :: refreshers.running.toList).Nodup := by
  cases attended with
  | idle spawned => simp
  | ticking known awaits => simp [Nat.ne_of_gt known]

theorem Attended.nodup_due (attended : Attended interval before refreshers begun) (now : Nat) :
    (refreshers.due now).Nodup := by
  cases attended with
  | idle spawned => exact .nil
  | @ticking _ _ _ ticker _ _ =>
      by_cases reached : ticker.due ≤ now
      · simp [due, Refresher.isDue, reached]
      · simp [due, Refresher.isDue, reached]

/-- A new refresher fires at once, and what it replaces does not fire. -/
theorem Attended.start (attended : Attended interval now refreshers begun) :
    ∃ after, (refreshers.start interval).runAll now
        (refreshers.spawned :: refreshers.running.toList) = (after, 1) ∧
      Attended interval now after (some now) := by
  have awaits := Ticker.awaits_start interval now
  have once : (Ticker.start interval now).firings now = 1 := by
    rw [← Ticker.length_instants, Ticker.instants_start, List.length_singleton]
  cases attended with
  | idle spawned =>
      refine ⟨_, ?_, .ticking (Nat.lt_succ_self spawned) awaits⟩
      simp [Refreshers.start, abort, Refreshers.runAll, run, Refresher.tickerAt, once]
  | @ticking serial spawned _ _ known _ =>
      have different : serial ≠ spawned := Nat.ne_of_lt known
      refine ⟨_, ?_, .ticking (Nat.lt_succ_self spawned) awaits⟩
      simp [Refreshers.start, abort, Refreshers.runAll, run, Refresher.tickerAt, once, different,
        different.symm]

theorem Attended.abort (attended : Attended interval now refreshers begun) :
    ∃ after, refreshers.abort.runAll now refreshers.running.toList = (after, 0) ∧
      Attended interval now after none := by
  cases attended with
  | idle spawned => exact ⟨_, rfl, .idle spawned⟩
  | @ticking serial spawned _ _ _ _ =>
      refine ⟨_, ?_, .idle spawned⟩
      simp [Refreshers.abort, Refreshers.runAll, run]

/-- As time goes by, the refresher fires once for every instant that comes. -/
theorem Attended.later (attended : Attended interval before refreshers begun)
    (passed : before ≤ now) :
    ∃ after, ∃ instants : List Nat,
      refreshers.runAll now (refreshers.due now) = (after, instants.length) ∧
      Attended interval now after begun ∧ instants.Pairwise (· < ·) ∧
      ∀ instant, instant ∈ instants ↔ ∃ start, begun = some start ∧
        FiresAt (max interval Ticker.leastPeriod) start instant ∧ before < instant ∧
        instant ≤ now := by
  cases attended with
  | idle spawned => exact ⟨_, [], rfl, .idle spawned, .nil, by simp⟩
  | @ticking serial spawned start ticker known awaits =>
      refine ⟨_, ticker.instants now, ?_, .ticking known (awaits.later passed),
        ticker.pairwise_instants now, ?_⟩
      · rw [Ticker.length_instants]
        by_cases reached : ticker.due ≤ now
        · simp [due, Refresher.isDue, reached, Refreshers.runAll, run, Refresher.tickerAt]
        · simp [due, Refresher.isDue, reached, Refreshers.runAll, Ticker.after, Ticker.firings]
      · intro instant
        simp [awaits.mem_instants_iff]

end Refreshers

end ChatOps
