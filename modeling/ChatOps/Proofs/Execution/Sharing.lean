import ChatOps.Proofs.Execution.Run
import Mathlib.Data.List.Nodup

/-!
# Shared identifiers

Nothing keeps users from beginning an execution under an identifier that is in flight
already.  The new one then takes the place of the other among what is pending, and whichever
of them settles first clears that place.  So an execution that has not been cancelled is out
of reach just if another one under its identifier has begun or settled since it began, and
the executions of an engine stay isolated as long as there is none of these
(`isolates_iff_undisturbed`).
-/

set_option autoImplicit false

namespace ChatOps

/-- Whether another execution under the same identifier has begun or settled since an
execution began. -/
inductive Log.Disturbed (log : Log) (launch : Launch) : Prop where
  | began (other : Launch) (sameId : other.id = launch.id)
      (different : other.serial ≠ launch.serial)
      (since : [.began launch, .began other].Sublist log)
  | settled (other : Launch) (reply : Reply) (sameId : other.id = launch.id)
      (different : other.serial ≠ launch.serial) (begun : .began other ∈ log)
      (since : [.began launch, .settled other.serial reply].Sublist log)

namespace Log

variable {log : Log} {launch other : Launch} {happening : Happening}

theorem sublist_pair_concat_iff {first second : Happening} :
    [first, second].Sublist (log ++ [happening]) ↔
      [first, second].Sublist log ∨ first ∈ log ∧ second = happening := by
  have pair := sublist_concat_iff [first] log second happening
  simpa only [List.cons_append, List.nil_append, List.singleton_sublist] using pair

theorem Disturbed.concat (disturbed : log.Disturbed launch) (happening : Happening) :
    Disturbed (log ++ [happening]) launch := by
  cases disturbed with
  | began other sameId different since =>
      exact .began other sameId different (sublist_pair_concat_iff.2 (.inl since))
  | settled other reply sameId different begun since =>
      exact .settled other reply sameId different (List.mem_append_left _ begun)
        (sublist_pair_concat_iff.2 (.inl since))

theorem disturbed_concat_began (begun : .began launch ∈ log) (sameId : other.id = launch.id)
    (different : other.serial ≠ launch.serial) :
    Disturbed (log ++ [.began other]) launch :=
  .began other sameId different (sublist_pair_concat_iff.2 (.inr ⟨begun, rfl⟩))

theorem disturbed_concat_settled (begun : .began launch ∈ log) (otherBegun : .began other ∈ log)
    (sameId : other.id = launch.id) (different : other.serial ≠ launch.serial) (reply : Reply) :
    Disturbed (log ++ [.settled other.serial reply]) launch :=
  .settled other reply sameId different (List.mem_append_left _ otherBegun)
    (sublist_pair_concat_iff.2 (.inr ⟨begun, rfl⟩))

end Log

/-! ## What becomes of the account -/

namespace Executions

variable {executions : Executions}

/-- What can be done to an account, with what there is to see of it.  An execution that
settles may have cancelled itself, and so may one that waits. -/
inductive Step (executions : Executions) : Log → Executions → Prop where
  | begin (id : ExecutionId) (command : Command) :
      Step executions [.began ⟨executions.started, id, command⟩]
        (executions.begin id command).1
  | settle {flight : Flight} (member : flight ∈ executions.flights) {cancelled : Bool}
      (raised : flight.cancelled = true → cancelled = true) (produced : Reply)
      (now : Instant) :
      Step executions
        [.settled flight.serial
          (executions.settle { flight with cancelled := cancelled } produced now).2]
        (executions.settle { flight with cancelled := cancelled } produced now).1
  | fire (serials : List Nat) : Step executions [] (executions.fire serials)
  | cancel (id : ExecutionId) :
      Step executions [.cancelled id (executions.cancel id).2] (executions.cancel id).1
  | cancelAll : Step executions [.cancelledAll executions.cancelAll.2] executions.cancelAll.1

inductive Steps : Executions → Log → Executions → Prop where
  | none (executions : Executions) : Steps executions [] executions
  | cons {before middle after : Executions} {log later : Log} (first : Step before log middle)
      (rest : Steps middle later after) : Steps before (log ++ later) after

theorem Step.steps {before after : Executions} {log : Log} (step : Step before log after) :
    Steps before log after := by
  have alone := Steps.cons step (.none after)
  rwa [List.append_nil] at alone

theorem found_cancel (executions : Executions) (id : ExecutionId) :
    (executions.cancel id).2 = executions.isPending id := by
  rw [cancel, isPending, SortedMap.contains]
  cases executions.pending.get? id <;> rfl

/-- To cancel is to take entries away, and to mark the executions that they lead to. -/
theorem cancel_of_pending {id : ExecutionId} {serial : Nat}
    (found : executions.pending.get? id = some serial) :
    (executions.cancel id).1 =
      { executions with pending := executions.pending.erase id }.fire [serial] := by
  rw [cancel, found]

theorem cancel_of_not_pending {id : ExecutionId} (missing : executions.pending.get? id = none) :
    (executions.cancel id).1 = executions := by
  rw [cancel, missing]

end Executions

namespace Engine

open Executions

variable {engine : Engine}

theorem steps_advance (around : Surroundings) {flight : Flight}
    (member : flight ∈ engine.executions.flights) (routine : Routine Dispatch.Outcome) :
    Steps engine.executions ((engine.advance around flight routine).2.happenings flight.serial)
      (engine.advance around flight routine).1.executions := by
  have raised : flight.cancelled = true →
      (routine.advance around.openGates.contains flight.cancelled).1 = true := by
    intro already
    rw [already]
    exact routine.advance_cancelled _
  rw [advance]
  generalize routine.advance around.openGates.contains flight.cancelled = result at raised
  obtain ⟨cancelled, progress⟩ := result
  cases progress with
  | finished outcome => exact (Step.settle member raised _ around.now).steps
  | waiting rest =>
      simp only [Stage.happenings, park]
      split
      · exact (Step.fire [flight.serial]).steps
      · exact .none engine.executions

theorem steps_execute (engine : Engine) (around : Surroundings) (id : ExecutionId)
    (command : Command) :
    Steps engine.executions
      (.began ⟨engine.executions.started, id, command⟩ ::
        (engine.execute around id command).2.happenings engine.executions.started)
      (engine.execute around id command).1.executions := by
  rw [execute]
  generalize Dispatch.ofCommand engine.registry.tables around.store command = todo
  let begun : Engine :=
    ⟨(todo.start engine.registry).1, (engine.executions.begin id command).1⟩
  have member : (engine.executions.begin id command).2 ∈ begun.executions.flights :=
    List.mem_append_right _ (List.mem_singleton.2 rfl)
  exact .cons (.begin id command) (steps_advance around member (todo.start engine.registry).2)

/-- Everything that is done to an engine comes down to steps of its account. -/
theorem steps_act (engine : Engine) (action : Action) :
    Steps engine.executions (engine.act action).2 (engine.act action).1.executions := by
  cases action with
  | start around id command => exact steps_execute engine around id command
  | resume around serial routine =>
      simp only [act, resume]
      cases found : engine.executions.flight? serial with
      | none => exact .none engine.executions
      | some flight =>
          have same : flight.serial = serial := by simpa using List.find?_some found
          rw [← same]
          exact steps_advance around (List.mem_of_find?_eq_some found) routine
  | cancel id => exact (Step.cancel id).steps
  | cancelAll => exact Step.cancelAll.steps
  | reconfigure registry => exact .none engine.executions

/-- The engines that come out of one by actions of any kind and in any order, each with the
log of how.  Identifiers may be used again at any time. -/
inductive Runs (first : Engine) : Engine → Log → Prop where
  | rest : Runs first first []
  | acted {engine : Engine} {log : Log} (before : Runs first engine log) (action : Action) :
      Runs first (engine.act action).1 (log ++ (engine.act action).2)

theorem Reachable.runs {capacity : Nat} {log : Log} (reachable : Reachable capacity engine log) :
    ∃ registry, Runs ⟨registry, .empty capacity⟩ engine log := by
  induction reachable with
  | fresh registry => exact ⟨registry, .rest⟩
  | after action before admissible inductionHypothesis =>
      obtain ⟨registry, runs⟩ := inductionHypothesis
      exact ⟨registry, runs.acted action⟩

end Engine

/-! ## Who has the entry of an identifier -/

/-- Whether the pending entries belong to the executions that nothing has disturbed.  An
execution without its entry has been cancelled or disturbed. -/
structure Custody (executions : Executions) (log : Log) : Prop where
  traced : Traced executions log
  distinct : (executions.flights.map Flight.serial).Nodup
  held : ∀ flight ∈ executions.flights,
    executions.pending.get? flight.id = some flight.serial → ¬ log.Disturbed flight.launch
  lost : ∀ flight ∈ executions.flights, flight.cancelled = false →
    executions.pending.get? flight.id ≠ some flight.serial → log.Disturbed flight.launch

namespace Custody

variable {executions : Executions} {log : Log}

theorem empty (capacity : Nat) : Custody (.empty capacity) [] where
  traced := .empty capacity
  distinct := .nil
  held := by simp [Executions.empty]
  lost := by simp [Executions.empty]

theorem not_disturbed_next (traced : Traced executions log) (id : ExecutionId)
    (command : Command) :
    ¬ Log.Disturbed (log ++ [.began ⟨executions.started, id, command⟩])
      ⟨executions.started, id, command⟩ := by
  have new := traced.not_began id command
  intro disturbed
  cases disturbed with
  | began other sameId different since =>
      rcases Log.sublist_pair_concat_iff.1 since with older | ⟨begun, _⟩
      · exact new (older.subset List.mem_cons_self)
      · exact new begun
  | settled other reply sameId different begun since =>
      rcases Log.sublist_pair_concat_iff.1 since with older | ⟨begun, _⟩
      · exact new (older.subset List.mem_cons_self)
      · exact new begun

/-- A beginning disturbs nothing but executions under its identifier. -/
theorem disturbed_of_concat_began (traced : Traced executions log) {id : ExecutionId}
    {command : Command} {launch : Launch} (elsewhere : launch.id ≠ id)
    (disturbed : Log.Disturbed (log ++ [.began ⟨executions.started, id, command⟩]) launch) :
    log.Disturbed launch := by
  cases disturbed with
  | began other sameId different since =>
      rcases Log.sublist_pair_concat_iff.1 since with older | ⟨_, last⟩
      · exact .began other sameId different older
      · cases last
        exact absurd sameId.symm elsewhere
  | settled other reply sameId different begun since =>
      rcases Log.sublist_pair_concat_iff.1 since with older | ⟨_, last⟩
      · rcases List.mem_append.1 begun with otherOlder | otherNew
        · exact .settled other reply sameId different otherOlder older
        · -- No execution settles before it begins.
          cases List.mem_singleton.1 otherNew
          exact absurd (older.subset (by simp)) (traced.not_settled reply)
      · cases last

theorem disturbed_of_concat_settled (traced : Traced executions log) {settled launch : Launch}
    {reply : Reply} (begun : .began settled ∈ log) (elsewhere : launch.id ≠ settled.id)
    (disturbed : Log.Disturbed (log ++ [.settled settled.serial reply]) launch) :
    log.Disturbed launch := by
  have begunBefore : ∀ other : Launch,
      Happening.began other ∈ log ++ [.settled settled.serial reply] → .began other ∈ log := by
    intro other member
    simpa using member
  cases disturbed with
  | began other sameId different since =>
      rcases Log.sublist_pair_concat_iff.1 since with older | ⟨_, last⟩
      · exact .began other sameId different older
      · cases last
  | settled other earlier sameId different otherBegun since =>
      rcases Log.sublist_pair_concat_iff.1 since with older | ⟨_, last⟩
      · exact .settled other earlier sameId different (begunBefore other otherBegun) older
      · have same := traced.unique other settled (begunBefore other otherBegun) begun
          (Happening.settled.inj last).1
        rw [same] at sameId
        exact absurd sameId.symm elsewhere

theorem disturbed_concat_iff {happening : Happening} {launch : Launch}
    (noBegin : ∀ other, happening ≠ .began other)
    (noSettle : ∀ serial reply, happening ≠ .settled serial reply) :
    Log.Disturbed (log ++ [happening]) launch ↔ log.Disturbed launch := by
  constructor
  · intro disturbed
    cases disturbed with
    | began other sameId different since =>
        rcases Log.sublist_pair_concat_iff.1 since with older | ⟨_, last⟩
        · exact .began other sameId different older
        · exact absurd last.symm (noBegin other)
    | settled other reply sameId different begun since =>
        rcases Log.sublist_pair_concat_iff.1 since with older | ⟨_, last⟩
        · rcases List.mem_append.1 begun with otherOlder | otherNew
          · exact .settled other reply sameId different otherOlder older
          · exact absurd (List.mem_singleton.1 otherNew).symm (noBegin other)
        · exact absurd last.symm (noSettle other.serial reply)
  · exact fun disturbed => disturbed.concat happening

theorem begin (custody : Custody executions log) (id : ExecutionId) (command : Command) :
    Custody (executions.begin id command).1
      (log ++ [.began ⟨executions.started, id, command⟩]) := by
  have traced := custody.traced
  constructor
  case traced => exact traced.begin id command
  case distinct =>
    simp only [Executions.begin, List.map_append, List.map_cons, List.map_nil]
    refine List.nodup_append.2 ⟨custody.distinct, by simp, ?_⟩
    intro serial member new isNew same
    obtain ⟨flight, older, rfl⟩ := List.mem_map.1 member
    have earlier := traced.serial_lt older
    rw [same, List.mem_singleton.1 isNew] at earlier
    exact Nat.lt_irrefl _ earlier
  case held =>
    intro flight member isPending
    rcases List.mem_append.1 member with older | new
    · rw [Executions.begin, SortedMap.get?_insert] at isPending
      split at isPending
      · exact absurd (Option.some.inj isPending).symm (Nat.ne_of_lt (traced.serial_lt older))
      · next elsewhere =>
          intro disturbed
          exact custody.held flight older isPending
            (disturbed_of_concat_began traced (Ne.symm elsewhere) disturbed)
    · cases List.mem_singleton.1 new
      exact not_disturbed_next traced id command
  case lost =>
    intro flight member uncancelled notPending
    rcases List.mem_append.1 member with older | new
    · by_cases sameId : id = flight.id
      · exact Log.disturbed_concat_began (traced.inFlight_launch older).1 sameId
          (Nat.ne_of_gt (traced.serial_lt older))
      · rw [Executions.begin, SortedMap.get?_insert, if_neg sameId] at notPending
        exact (custody.lost flight older uncancelled notPending).concat _
    · cases List.mem_singleton.1 new
      exact absurd (by simp [Executions.begin, SortedMap.get?_insert]) notPending

theorem settle (custody : Custody executions log) {flight : Flight}
    (inFlight : log.InFlight flight.launch) (produced : Reply) (now : Instant) :
    Custody (executions.settle flight produced now).1
      (log ++ [.settled flight.serial (executions.settle flight produced now).2]) := by
  have traced := custody.traced
  constructor
  case traced => exact traced.settle flight inFlight produced now
  case distinct =>
    exact custody.distinct.sublist (List.filter_sublist.map Flight.serial)
  case held =>
    intro other member isPending
    have older := (List.mem_filter.1 member).1
    rw [Executions.settle, SortedMap.get?_erase] at isPending
    split at isPending
    · cases isPending
    · next elsewhere =>
        intro disturbed
        exact custody.held other older isPending
          (disturbed_of_concat_settled traced inFlight.1 (Ne.symm elsewhere) disturbed)
  case lost =>
    intro other member uncancelled notPending
    obtain ⟨older, different⟩ := List.mem_filter.1 member
    by_cases sameId : flight.id = other.id
    · have unequal : flight.serial ≠ other.serial := fun same => by simp [same] at different
      exact Log.disturbed_concat_settled (traced.inFlight_launch older).1 inFlight.1 sameId
        unequal _
    · rw [Executions.settle, SortedMap.get?_erase, if_neg sameId] at notPending
      exact (custody.lost other older uncancelled notPending).concat _

/-- Entries may be taken away if the executions that they lead to are marked. -/
theorem release (custody : Custody executions log) (serials : List Nat)
    (pending : SortedMap ExecutionId Nat)
    (fewer : ∀ id serial, pending.get? id = some serial →
      executions.pending.get? id = some serial)
    (marked : ∀ id serial, executions.pending.get? id = some serial →
      pending.get? id = some serial ∨ serial ∈ serials) :
    Custody ({ executions with pending := pending }.fire serials) log := by
  have launches : ({ executions with pending := pending }.fire serials).flights.map
      Flight.launch = executions.flights.map Flight.launch := Executions.launches_fire serials
  constructor
  case traced => exact custody.traced.of_same launches rfl
  case distinct =>
    have same := congrArg (List.map Launch.serial) launches
    simp only [List.map_map] at same
    exact same ▸ custody.distinct
  case held =>
    intro flight member isPending
    obtain ⟨older, olderMember, rfl⟩ := Executions.mem_flights_fire.1 member
    exact custody.held older olderMember (fewer _ _ isPending)
  case lost =>
    intro flight member uncancelled notPending
    obtain ⟨older, olderMember, rfl⟩ := Executions.mem_flights_fire.1 member
    obtain ⟨unmarked, unhit⟩ := Bool.or_eq_false_iff.1 uncancelled
    refine custody.lost older olderMember unmarked ?_
    intro wasPending
    rcases marked _ _ wasPending with stillPending | hit
    · exact notPending stillPending
    · simp [hit] at unhit

theorem concat (custody : Custody executions log) {happening : Happening}
    (noBegin : ∀ other, happening ≠ .began other)
    (noSettle : ∀ serial reply, happening ≠ .settled serial reply) :
    Custody executions (log ++ [happening]) where
  traced := custody.traced.concat noBegin noSettle
  distinct := custody.distinct
  held := by
    intro flight member isPending
    rw [disturbed_concat_iff noBegin noSettle]
    exact custody.held flight member isPending
  lost := by
    intro flight member uncancelled notPending
    rw [disturbed_concat_iff noBegin noSettle]
    exact custody.lost flight member uncancelled notPending

theorem cancel (custody : Custody executions log) (id : ExecutionId) :
    Custody (executions.cancel id).1 (log ++ [.cancelled id (executions.cancel id).2]) := by
  refine concat ?_ (by simp) (by simp)
  cases found : executions.pending.get? id with
  | none =>
      rw [Executions.cancel_of_not_pending found]
      exact custody
  | some serial =>
      rw [Executions.cancel_of_pending found]
      apply custody.release
      · intro other otherSerial stillPending
        rw [SortedMap.get?_erase] at stillPending
        split at stillPending
        · cases stillPending
        · exact stillPending
      · intro other otherSerial wasPending
        rw [SortedMap.get?_erase]
        split
        · next same =>
            rw [← same, found] at wasPending
            cases wasPending
            exact .inr (List.mem_singleton.2 rfl)
        · exact .inl wasPending

theorem cancelAll (custody : Custody executions log) :
    Custody executions.cancelAll.1 (log ++ [.cancelledAll executions.cancelAll.2]) := by
  refine concat ?_ (by simp) (by simp)
  refine custody.release _ .empty (by simp) ?_
  intro id serial wasPending
  exact .inr (List.mem_map.2 ⟨_, SortedMap.mem_of_get? wasPending, rfl⟩)

theorem step {after : Executions} {more : Log} (custody : Custody executions log)
    (step : executions.Step more after) : Custody after (log ++ more) := by
  cases step with
  | begin id command => exact custody.begin id command
  | @settle flight member cancelled raised produced now =>
      have inFlight : log.InFlight flight.launch := custody.traced.inFlight_launch member
      have sameLaunch : { flight with cancelled := cancelled }.launch = flight.launch := rfl
      exact custody.settle (sameLaunch ▸ inFlight) produced now
  | fire serials =>
      rw [List.append_nil]
      exact custody.release serials executions.pending (fun _ _ same => same)
        fun _ _ same => .inl same
  | cancel id => exact custody.cancel id
  | cancelAll => exact custody.cancelAll

theorem steps {after : Executions} {more : Log} (custody : Custody executions log)
    (steps : executions.Steps more after) : Custody after (log ++ more) := by
  induction steps generalizing log with
  | none => rwa [List.append_nil]
  | cons first rest inductionHypothesis =>
      rw [← List.append_assoc]
      exact inductionHypothesis (custody.step first)

end Custody

/-! ## What is done to an execution -/

/-- Whether an execution that is cancelled has been told so.  Its serial number is not given
again. -/
structure Executions.Doomed (executions : Executions) (serial : Nat) : Prop where
  begun : serial < executions.started
  marked : ∀ flight ∈ executions.flights, flight.serial = serial → flight.cancelled = true

namespace Executions

variable {executions after : Executions} {serial : Nat} {log : Log}

theorem Doomed.fire (doomed : executions.Doomed serial) (serials : List Nat)
    (pending : SortedMap ExecutionId Nat) :
    ({ executions with pending := pending }.fire serials).Doomed serial where
  begun := doomed.begun
  marked := by
    intro flight member same
    obtain ⟨older, olderMember, rfl⟩ := mem_flights_fire.1 member
    simp [doomed.marked older olderMember same]

/-- A cancelled execution stays cancelled, and settles as such. -/
theorem Doomed.step (doomed : executions.Doomed serial) (step : executions.Step log after) :
    after.Doomed serial ∧ ∀ reply, .settled serial reply ∈ log → reply = .cancelled := by
  cases step with
  | begin id command =>
      refine ⟨⟨Nat.lt_succ_of_lt doomed.begun, ?_⟩, by simp⟩
      intro flight member same
      rcases List.mem_append.1 member with older | new
      · exact doomed.marked flight older same
      · cases List.mem_singleton.1 new
        exact absurd same (Nat.ne_of_gt doomed.begun)
  | @settle flight member cancelled raised produced now =>
      refine ⟨⟨doomed.begun, ?_⟩, ?_⟩
      · intro other otherMember same
        exact doomed.marked other (List.mem_filter.1 otherMember).1 same
      · intro reply settled
        obtain ⟨same, isReply⟩ := Happening.settled.inj (List.mem_singleton.1 settled)
        have marked := raised (doomed.marked flight member same.symm)
        rw [isReply, settle, replyOf, marked]
        rfl
  | fire serials => exact ⟨doomed.fire serials executions.pending, by simp⟩
  | cancel id =>
      refine ⟨?_, by simp⟩
      cases found : executions.pending.get? id with
      | none =>
          rw [cancel_of_not_pending found]
          exact doomed
      | some hit =>
          rw [cancel_of_pending found]
          exact doomed.fire [hit] _
  | cancelAll => exact ⟨doomed.fire _ .empty, by simp⟩

theorem Doomed.steps (doomed : executions.Doomed serial) (steps : executions.Steps log after) :
    after.Doomed serial ∧ ∀ reply, .settled serial reply ∈ log → reply = .cancelled := by
  induction steps with
  | none => exact ⟨doomed, by simp⟩
  | cons first rest inductionHypothesis =>
      obtain ⟨stillDoomed, now⟩ := doomed.step first
      obtain ⟨inTheEnd, later⟩ := inductionHypothesis stillDoomed
      refine ⟨inTheEnd, ?_⟩
      intro reply settled
      exact (List.mem_append.1 settled).elim (now reply) (later reply)

end Executions

namespace Engine

open Executions

variable {capacity : Nat} {registry : Registry} {engine : Engine} {log : Log}

/-- Whether an execution in flight has not been cancelled, neither by users nor by itself. -/
def Spares (engine : Engine) (launch : Launch) : Prop :=
  ∃ flight ∈ engine.executions.flights, flight.launch = launch ∧ flight.cancelled = false

/-- Whether an execution settles as cancelled whatever is done from here on, if it settles. -/
def Dooms (engine : Engine) (serial : Nat) : Prop :=
  ∀ after log reply, engine.Runs after log → .settled serial reply ∈ log → reply = .cancelled

/-- Whether no execution in flight comes off badly because others share its identifier: it
is pending unless it has been cancelled, and to cancel its identifier is to cancel it. -/
structure Isolates (engine : Engine) (log : Log) : Prop where
  reported : ∀ launch, log.InFlight launch → engine.Spares launch →
    engine.executions.isPending launch.id = true
  cancelled : ∀ id, (engine.executions.cancel id).2 = true →
    ∀ launch, log.InFlight launch → launch.id = id →
      (engine.act (.cancel id)).1.Dooms launch.serial

/-- Whether no execution in flight that has not been cancelled has seen another one under
its identifier begin or settle. -/
def Undisturbed (engine : Engine) (log : Log) : Prop :=
  ∀ launch, log.InFlight launch → engine.Spares launch → ¬ log.Disturbed launch

theorem dooms_of_doomed {serial : Nat} (doomed : engine.executions.Doomed serial) :
    engine.Dooms serial := by
  intro after log reply runs settled
  suffices outcome : after.executions.Doomed serial ∧
      ∀ reply, .settled serial reply ∈ log → reply = .cancelled from outcome.2 reply settled
  clear settled
  induction runs with
  | rest => exact ⟨doomed, by simp⟩
  | acted before action inductionHypothesis =>
      obtain ⟨stillDoomed, earlier⟩ := inductionHypothesis
      obtain ⟨inTheEnd, now⟩ := stillDoomed.steps (steps_act _ action)
      refine ⟨inTheEnd, ?_⟩
      intro reply settled
      exact (List.mem_append.1 settled).elim (earlier reply) (now reply)

theorem custody_of_runs (runs : Runs ⟨registry, .empty capacity⟩ engine log) :
    Custody engine.executions log := by
  induction runs with
  | rest => exact .empty capacity
  | acted before action inductionHypothesis => exact inductionHypothesis.steps (steps_act _ action)

/-- An execution that has not been cancelled may still succeed. -/
theorem not_dooms_of_unmarked (custody : Custody engine.executions log) {flight : Flight}
    (member : flight ∈ engine.executions.flights) (unmarked : flight.cancelled = false) :
    ¬ engine.Dooms flight.serial := by
  let around : Surroundings := ⟨.empty, [], ⟨0, 0⟩⟩
  have found : engine.executions.flight? flight.serial = some flight := by
    cases found : engine.executions.flight? flight.serial with
    | none => exact absurd (List.find?_eq_none.1 found flight member) (by simp)
    | some other =>
        have same : other.serial = flight.serial := by simpa using List.find?_some found
        rw [List.inj_on_of_nodup_map custody.distinct (List.mem_of_find?_eq_some found) member
          same]
  have resumed : (engine.act (.resume around flight.serial (.done (.ok .empty)))).2 =
      [.settled flight.serial (.done "Command completed")] := by
    simp only [act, resume, found]
    simp [advance, Routine.done, Routine.advance, Stage.happenings, Engine.settle,
      Executions.settle, Executions.replyOf, unmarked, produced, Output.toReply]
  intro dooms
  have failed := dooms _ _ (.done "Command completed")
    (Runs.rest.acted (.resume around flight.serial (.done (.ok .empty))))
    (by rw [resumed]; simp)
  cases failed

theorem isPending_iff_exists {id : ExecutionId} :
    engine.executions.isPending id = true ↔
      ∃ serial, engine.executions.pending.get? id = some serial := by
  rw [Executions.isPending, SortedMap.contains, Option.isSome_iff_exists]

theorem undisturbed_of_isolates (custody : Custody engine.executions log)
    (isolates : engine.Isolates log) : engine.Undisturbed log := by
  rintro _ inFlight ⟨flight, member, rfl, unmarked⟩ disturbed
  have isPending : engine.executions.isPending flight.id = true :=
    isolates.reported flight.launch inFlight ⟨flight, member, rfl, unmarked⟩
  obtain ⟨serial, found⟩ := isPending_iff_exists.1 isPending
  -- Another execution has the entry, and so it is the one that is cancelled.
  have different : serial ≠ flight.serial := by
    rintro rfl
    exact custody.held flight member found disturbed
  have spared : flight ∈ (engine.executions.cancel flight.id).1.flights := by
    rw [cancel_of_pending found]
    refine mem_flights_fire.2 ⟨flight, member, ?_⟩
    simp [Ne.symm different]
  have dooms := isolates.cancelled flight.id (by rw [found_cancel, isPending]) flight.launch
    inFlight rfl
  have later : Custody (engine.act (.cancel flight.id)).1.executions
      (log ++ (engine.act (.cancel flight.id)).2) := custody.cancel flight.id
  exact not_dooms_of_unmarked later spared unmarked dooms

theorem isolates_of_undisturbed (custody : Custody engine.executions log)
    (undisturbed : engine.Undisturbed log) : engine.Isolates log := by
  have has : ∀ flight ∈ engine.executions.flights, flight.cancelled = false →
      engine.executions.pending.get? flight.id = some flight.serial := by
    intro flight member unmarked
    by_contra lost
    exact undisturbed flight.launch (custody.traced.inFlight_launch member)
      ⟨flight, member, rfl, unmarked⟩ (custody.lost flight member unmarked lost)
  constructor
  case reported =>
    rintro _ _ ⟨flight, member, rfl, unmarked⟩
    exact isPending_iff_exists.2 ⟨_, has flight member unmarked⟩
  case cancelled =>
    rintro id isFound launch inFlight rfl
    rw [found_cancel] at isFound
    obtain ⟨serial, found⟩ := isPending_iff_exists.1 isFound
    apply dooms_of_doomed
    simp only [act]
    refine ⟨?_, ?_⟩
    · rw [cancel_of_pending found]
      exact custody.traced.serials launch inFlight.1
    · intro flight member same
      rw [cancel_of_pending found] at member
      obtain ⟨older, olderMember, rfl⟩ := mem_flights_fire.1 member
      cases marked : older.cancelled with
      | true => rfl
      | false =>
          obtain rfl := custody.traced.unique older.launch launch
            (custody.traced.inFlight_launch olderMember).1 inFlight.1 same
          have entry := found.symm.trans (has older olderMember marked)
          simp [Option.some.inj entry]

/-- Nothing is disturbed where no identifier is used again while an execution under it is in
flight. -/
theorem Reachable.undisturbed (reachable : Reachable capacity engine log) :
    engine.Undisturbed log := by
  obtain ⟨_, runs⟩ := reachable.runs
  rintro _ _ ⟨flight, member, rfl, unmarked⟩
  apply (custody_of_runs runs).held flight member
  rcases reachable.accounts.fired_or_pending member with marked | isPending
  · rw [unmarked] at marked
    cases marked
  · exact isPending

/-- Whatever has been done to an engine, its executions are isolated just if none of those
that have not been cancelled has been disturbed. -/
theorem isolates_iff_undisturbed (runs : Runs ⟨registry, .empty capacity⟩ engine log) :
    engine.Isolates log ↔ engine.Undisturbed log :=
  have custody := custody_of_runs runs
  ⟨undisturbed_of_isolates custody, isolates_of_undisturbed custody⟩

/-- A new engine with two commands, each of which waits for the gate of its name. -/
def gated : Engine where
  registry :=
    let wait : HandlerCode := fun given => .untilOpen given.command (.done (.ok .empty))
    { tables :=
        (Tables.empty.insert (.domain .git) "pull" (.custom wait) none).insert
          (.domain .git) "push" (.custom wait) none
      models := ⟨[], none⟩
      feed := .empty Registry.feedCapacity }
  executions := .empty 2

/-- What can be told of an execution under way without its command. -/
def glance (flight : Flight) : Nat × ExecutionId × Bool :=
  (flight.serial, flight.id, flight.cancelled)

/-- An execution is cancelled and goes on all the same, and another one begins under its
identifier. -/
theorem isolates_iff_undisturbed_renewed :
    let around : Surroundings := ⟨.empty, [], ⟨0, 0⟩⟩
    let first := gated.act (.start around ⟨7⟩ (.forDomain .git "pull"))
    let cancelled := first.1.act (.cancel ⟨7⟩)
    let second := cancelled.1.act (.start around ⟨7⟩ (.forDomain .git "push"))
    let log := [] ++ first.2 ++ cancelled.2 ++ second.2
    Runs gated second.1 log ∧ second.1.Isolates log ∧
      second.1.executions.flights.map glance = [(0, ⟨7⟩, true), (1, ⟨7⟩, false)] := by
  intro around first cancelled second log
  have runs : Runs gated second.1 log := ((Runs.rest.acted _).acted _).acted _
  have both : second.1.executions.flights.map glance = [(0, ⟨7⟩, true), (1, ⟨7⟩, false)] := by
    decide +kernel
  have entry : second.1.executions.pending.get? ⟨7⟩ = some 1 := by decide +kernel
  refine ⟨runs, (isolates_iff_undisturbed runs).2 ?_, both⟩
  rintro _ _ ⟨flight, member, rfl, unmarked⟩
  apply (custody_of_runs runs).held flight member
  have seen : glance flight ∈ second.1.executions.flights.map glance :=
    List.mem_map_of_mem member
  rw [both] at seen
  obtain ⟨serial, id, command, marked⟩ := flight
  simp only [glance, List.mem_cons, Prod.mk.injEq, List.not_mem_nil, or_false] at seen unmarked
  rcases seen with ⟨_, _, isMarked⟩ | ⟨isSecond, isSeven, _⟩
  · rw [unmarked] at isMarked
    cases isMarked
  · rw [isSecond, isSeven]
    exact entry

/-- Two executions share an identifier.  Once the first one has settled, the second one is
not pending any more though nobody has cancelled it. -/
theorem not_isolates_overtaken :
    let around : Surroundings := ⟨.empty, [], ⟨0, 0⟩⟩
    let opened : Surroundings := ⟨.empty, ["pull"], ⟨0, 0⟩⟩
    let first := gated.act (.start around ⟨7⟩ (.forDomain .git "pull"))
    let second := first.1.act (.start around ⟨7⟩ (.forDomain .git "push"))
    let settled := second.1.act (.resume opened 0 (.untilOpen "pull" (.done (.ok .empty))))
    let log := [] ++ first.2 ++ second.2 ++ settled.2
    Runs gated settled.1 log ∧ ¬ settled.1.Isolates log := by
  intro around opened first second settled log
  have runs : Runs gated settled.1 log := ((Runs.rest.acted _).acted _).acted _
  have single : settled.1.executions.flights.map glance = [(1, ⟨7⟩, false)] := by
    decide +kernel
  have notPending : settled.1.executions.isPending ⟨7⟩ = false := by decide +kernel
  refine ⟨runs, ?_⟩
  intro isolates
  obtain ⟨flight, isOnly, told⟩ := List.map_eq_singleton_iff.1 single
  have member : flight ∈ settled.1.executions.flights := by
    rw [isOnly]
    exact List.mem_singleton.2 rfl
  obtain ⟨_, isSeven, unmarked⟩ : flight.serial = 1 ∧ flight.id = ⟨7⟩ ∧
      flight.cancelled = false := by
    simpa [glance] using told
  have isPending := isolates.reported flight.launch
    ((custody_of_runs runs).traced.inFlight_launch member) ⟨flight, member, rfl, unmarked⟩
  change settled.1.executions.isPending flight.id = true at isPending
  rw [isSeven, notPending] at isPending
  cases isPending

end Engine

end ChatOps
