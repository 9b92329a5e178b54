import ChatOps.Proofs.Execution.Traced
import ChatOps.Proofs.SortedMap

/-!
# The account of executions

The account keeps three stores: what is pending, what is under way and whether it has
been cancelled, and the history.  `Accounts` ties all three to a log, and every
operation on the account carries it on to the log with one happening more.
-/

set_option autoImplicit false

namespace ChatOps

/-- Whether an account tells what a log says. -/
structure Accounts (capacity : Nat) (executions : Executions) (log : Log) : Prop where
  serials : ∀ launch, .began launch ∈ log → launch.serial < executions.started
  unique : ∀ first second, .began first ∈ log → .began second ∈ log →
    first.serial = second.serial → first = second
  flights : ∀ launch, launch ∈ executions.flights.map Flight.launch ↔ log.InFlight launch
  identifiers : ∀ first second, log.InFlight first → log.InFlight second →
    first.id = second.id → first = second
  fired : ∀ flight ∈ executions.flights, log.Cancelled flight.launch →
    flight.cancelled = true
  pending : ∀ id serial, executions.pending.get? id = some serial ↔
    ∃ launch : Launch, launch.id = id ∧ launch.serial = serial ∧ log.InFlight launch ∧
      ¬ log.Cancelled launch
  begun : ∀ serial reply, .settled serial reply ∈ log →
    ∃ launch : Launch, launch.serial = serial ∧ .began launch ∈ log
  once : (log.settlements.map Prod.fst).Nodup
  replies : ∀ (launch : Launch) (happening : Happening) (reply : Reply),
    happening.Cancels launch.id →
      [.began launch, happening, .settled launch.serial reply].Sublist log →
        reply = .cancelled
  limit : executions.history.capacity = capacity
  history : ∃ records, List.Forall₂ log.IsRecorded log.settlements records ∧
    executions.history.records = newest capacity records

namespace Accounts

variable {capacity : Nat} {executions : Executions} {log : Log}

theorem empty (capacity : Nat) : Accounts capacity (.empty capacity) [] where
  serials := by simp
  unique := by simp
  flights := by simp [Executions.empty, Log.InFlight]
  identifiers := by simp [Log.InFlight]
  fired := by simp [Executions.empty]
  pending := by simp [Executions.empty, Log.InFlight]
  begun := by simp
  once := by simp [Log.settlements]
  replies := by simp
  limit := rfl
  history := ⟨[], by simp [Log.settlements],
    by simp [Executions.empty, History.empty, newest]⟩

theorem traced (accounts : Accounts capacity executions log) : Traced executions log :=
  ⟨accounts.serials, accounts.unique, accounts.flights, accounts.begun⟩

theorem inFlight_launch (accounts : Accounts capacity executions log) {flight : Flight}
    (member : flight ∈ executions.flights) : log.InFlight flight.launch :=
  accounts.traced.inFlight_launch member

theorem history_push {records : List ExecutionRecord}
    (accounts : Accounts capacity executions log)
    (kept : executions.history.records = newest capacity records) (record : ExecutionRecord) :
    (executions.history.push record).records = newest capacity (records ++ [record]) := by
  rw [History.records_push, accounts.limit, kept, newest_newest_append]

/-! ## Beginning -/

theorem begin (accounts : Accounts capacity executions log) (id : ExecutionId)
    (command : Command) (fresh : ∀ launch : Launch, launch.id = id → ¬ log.InFlight launch) :
    Accounts capacity (executions.begin id command).1
      (log ++ [.began ⟨executions.started, id, command⟩]) := by
  have traced := accounts.traced.begin id command
  have inFlight := accounts.traced.inFlight_concat_began_iff id command
  have cancelled : ∀ launch : Launch,
      Log.Cancelled (log ++ [.began ⟨executions.started, id, command⟩]) launch ↔
        log.Cancelled launch := by
    intro launch
    rw [Log.cancelled_concat_iff]
    simp [Happening.Cancels]
  have newUncancelled : ¬ log.Cancelled ⟨executions.started, id, command⟩ := fun wrong =>
    accounts.traced.not_began id command wrong.began
  have noSettle : ∀ serial reply,
      Happening.began ⟨executions.started, id, command⟩ ≠ .settled serial reply := by simp
  constructor
  case serials => exact traced.serials
  case unique => exact traced.unique
  case flights => exact traced.flights
  case identifiers =>
    intro first second firstFlight secondFlight same
    rcases (inFlight first).1 firstFlight with firstOlder | firstNew
    · rcases (inFlight second).1 secondFlight with secondOlder | secondNew
      · exact accounts.identifiers first second firstOlder secondOlder same
      · rw [secondNew] at same
        exact absurd firstOlder (fresh first same)
    · rcases (inFlight second).1 secondFlight with secondOlder | secondNew
      · rw [firstNew] at same
        exact absurd secondOlder (fresh second same.symm)
      · rw [firstNew, secondNew]
  case fired =>
    intro flight member wasCancelled
    rw [cancelled] at wasCancelled
    rcases List.mem_append.1 member with older | new
    · exact accounts.fired flight older wasCancelled
    · cases List.mem_singleton.1 new
      exact absurd wasCancelled newUncancelled
  case pending =>
    intro other serial
    simp only [Executions.begin, SortedMap.get?_insert, inFlight, cancelled]
    split
    · next same =>
        subst same
        constructor
        · intro found
          cases found
          exact ⟨_, rfl, rfl, .inr rfl, newUncancelled⟩
        · rintro ⟨launch, sameId, sameSerial, older | new, _⟩
          · exact absurd older (fresh launch sameId)
          · rw [← sameSerial, new]
    · next different =>
        rw [accounts.pending]
        constructor
        · rintro ⟨launch, sameId, sameSerial, flying, uncancelled⟩
          exact ⟨launch, sameId, sameSerial, .inl flying, uncancelled⟩
        · rintro ⟨launch, sameId, sameSerial, older | new, uncancelled⟩
          · exact ⟨launch, sameId, sameSerial, older, uncancelled⟩
          · rw [new] at sameId
            exact absurd sameId different
  case begun => exact traced.begun
  case once =>
    rw [Log.settlements_concat noSettle]
    exact accounts.once
  case replies =>
    intro launch happening reply cancels sublist
    rcases Log.sublist_triple_concat_iff.1 sublist with older | ⟨_, wrong⟩
    · exact accounts.replies launch happening reply cancels older
    · cases wrong
  case limit => exact accounts.limit
  case history =>
    obtain ⟨records, recorded, kept⟩ := accounts.history
    rw [Log.settlements_concat noSettle]
    exact ⟨records, recorded.imp fun _ _ told => told.concat _, kept⟩

/-! ## Settling -/

/-- An execution settles.  Its flight may have been cancelled by now. -/
theorem settle (accounts : Accounts capacity executions log) (flight : Flight)
    (inFlight : log.InFlight flight.launch)
    (fired : log.Cancelled flight.launch → flight.cancelled = true) (produced : Reply)
    (now : Instant) :
    Accounts capacity (executions.settle flight produced now).1
      (log ++ [.settled flight.serial (executions.settle flight produced now).2]) := by
  have traced := accounts.traced.settle flight inFlight produced now
  have inFlightAfter : ∀ launch : Launch,
      Log.InFlight (log ++ [.settled flight.serial (executions.settle flight produced now).2])
        launch ↔ log.InFlight launch ∧ launch.serial ≠ flight.serial :=
    fun _ => Log.inFlight_concat_settled_iff
  have cancelledAfter : ∀ launch : Launch,
      Log.Cancelled
        (log ++ [.settled flight.serial (executions.settle flight produced now).2]) launch ↔
        log.Cancelled launch := by
    intro launch
    rw [Log.cancelled_concat_iff]
    simp [Happening.Cancels]
  constructor
  case serials => exact traced.serials
  case unique => exact traced.unique
  case flights => exact traced.flights
  case identifiers =>
    intro first second firstFlight secondFlight same
    exact accounts.identifiers first second ((inFlightAfter first).1 firstFlight).1
      ((inFlightAfter second).1 secondFlight).1 same
  case fired =>
    intro other member wasCancelled
    rw [cancelledAfter] at wasCancelled
    exact accounts.fired other (List.mem_filter.1 member).1 wasCancelled
  case pending =>
    intro id serial
    have erased : (executions.settle flight produced now).1.pending =
        executions.pending.erase flight.id := rfl
    rw [erased, SortedMap.get?_erase]
    simp only [inFlightAfter, cancelledAfter]
    split
    · next same =>
        constructor
        · intro found
          cases found
        · rintro ⟨launch, sameId, _, ⟨flying, different⟩, _⟩
          have equal := accounts.identifiers launch flight.launch flying inFlight
            (sameId.trans same.symm)
          exact absurd (congrArg Launch.serial equal) different
    · next different =>
        rw [accounts.pending]
        constructor
        · rintro ⟨launch, sameId, sameSerial, flying, uncancelled⟩
          refine ⟨launch, sameId, sameSerial, ⟨flying, ?_⟩, uncancelled⟩
          intro equal
          have whole := accounts.unique launch flight.launch flying.1 inFlight.1 equal
          apply different
          rw [← sameId, whole]
          rfl
        · rintro ⟨launch, sameId, sameSerial, ⟨flying, _⟩, uncancelled⟩
          exact ⟨launch, sameId, sameSerial, flying, uncancelled⟩
  case begun => exact traced.begun
  case once =>
    rw [Log.settlements_concat_settled, List.map_append, List.nodup_append]
    refine ⟨accounts.once, by simp, ?_⟩
    intro serial member other isNew
    cases List.mem_singleton.1 isNew
    obtain ⟨⟨_, reply⟩, settled, same⟩ := List.mem_map.1 member
    rintro rfl
    cases same
    exact inFlight.2 reply (Log.mem_settlements.1 settled)
  case replies =>
    intro launch happening reply cancels sublist
    rcases Log.sublist_triple_concat_iff.1 sublist with older | ⟨pair, last⟩
    · exact accounts.replies launch happening reply cancels older
    · have wasCancelled : log.Cancelled launch := ⟨happening, cancels, pair⟩
      obtain ⟨sameSerial, sameReply⟩ := Happening.settled.inj last
      have whole := accounts.unique launch flight.launch wasCancelled.began inFlight.1
        sameSerial
      rw [whole] at wasCancelled
      rw [sameReply, Executions.settle, Executions.replyOf, fired wasCancelled]
      rfl
  case limit => exact accounts.limit
  case history =>
    obtain ⟨records, recorded, kept⟩ := accounts.history
    refine ⟨records ++ [⟨flight.id, flight.command,
      (executions.settle flight produced now).2, now, .none⟩], ?_, ?_⟩
    · rw [Log.settlements_concat_settled]
      refine List.rel_append (recorded.imp fun _ _ told => told.concat _) ?_
      exact .cons ⟨List.mem_append_left _ inFlight.1, rfl⟩ .nil
    · exact accounts.history_push kept _

/-! ## Cancelling -/

/-- Marking executions as cancelled changes nothing that the log tells. -/
theorem fire (accounts : Accounts capacity executions log) (serials : List Nat) :
    Accounts capacity (executions.fire serials) log where
  serials := accounts.serials
  unique := accounts.unique
  flights := by
    rw [Executions.launches_fire]
    exact accounts.flights
  identifiers := accounts.identifiers
  fired := by
    intro flight member wasCancelled
    obtain ⟨older, olderMember, same⟩ := Executions.mem_flights_fire.1 member
    rw [same] at wasCancelled ⊢
    rw [accounts.fired older olderMember wasCancelled]
    rfl
  pending := accounts.pending
  begun := accounts.begun
  once := accounts.once
  replies := accounts.replies
  limit := accounts.limit
  history := accounts.history

/-- An execution under way is cancelled already, or pending under its identifier. -/
theorem fired_or_pending (accounts : Accounts capacity executions log) {flight : Flight}
    (member : flight ∈ executions.flights) :
    flight.cancelled = true ∨ executions.pending.get? flight.id = some flight.serial := by
  by_cases wasCancelled : log.Cancelled flight.launch
  · exact .inl (accounts.fired flight member wasCancelled)
  · exact .inr ((accounts.pending _ _).2
      ⟨flight.launch, rfl, rfl, accounts.inFlight_launch member, wasCancelled⟩)

/-- An account that is the same but for what a cancellation does. -/
theorem cancelling (accounts : Accounts capacity executions log) {after : Executions}
    {happening : Happening} (noBegin : ∀ other, happening ≠ .began other)
    (noSettle : ∀ serial reply, happening ≠ .settled serial reply)
    (launches : after.flights.map Flight.launch = executions.flights.map Flight.launch)
    (fired : ∀ flight ∈ after.flights,
      log.Cancelled flight.launch ∨ happening.Cancels flight.id → flight.cancelled = true)
    (pending : ∀ id serial, after.pending.get? id = some serial ↔
      executions.pending.get? id = some serial ∧ ¬ happening.Cancels id)
    (started : after.started = executions.started)
    (history : after.history = executions.history) :
    Accounts capacity after (log ++ [happening]) := by
  have traced := (accounts.traced.of_same launches started).concat noBegin noSettle
  have inFlight : ∀ launch, Log.InFlight (log ++ [happening]) launch ↔ log.InFlight launch :=
    fun _ => Log.inFlight_concat_iff noBegin noSettle
  constructor
  case serials => exact traced.serials
  case unique => exact traced.unique
  case flights => exact traced.flights
  case identifiers =>
    intro first second firstFlight secondFlight
    exact accounts.identifiers first second ((inFlight first).1 firstFlight)
      ((inFlight second).1 secondFlight)
  case fired =>
    intro flight member wasCancelled
    rcases Log.cancelled_concat_iff.1 wasCancelled with older | ⟨_, cancels⟩
    · exact fired flight member (.inl older)
    · exact fired flight member (.inr cancels)
  case pending =>
    intro id serial
    rw [pending, accounts.pending]
    constructor
    · rintro ⟨⟨launch, sameId, sameSerial, flying, uncancelled⟩, spared⟩
      refine ⟨launch, sameId, sameSerial, (inFlight launch).2 flying, ?_⟩
      intro nowCancelled
      rcases Log.cancelled_concat_iff.1 nowCancelled with older | ⟨_, cancels⟩
      · exact uncancelled older
      · rw [sameId] at cancels
        exact spared cancels
    · rintro ⟨launch, sameId, sameSerial, flying, uncancelled⟩
      have flew := (inFlight launch).1 flying
      refine ⟨⟨launch, sameId, sameSerial, flew, fun older =>
        uncancelled (Log.cancelled_concat_iff.2 (.inl older))⟩, ?_⟩
      intro cancels
      rw [← sameId] at cancels
      exact uncancelled (Log.cancelled_concat_iff.2 (.inr ⟨flew.1, cancels⟩))
  case begun => exact traced.begun
  case once =>
    rw [Log.settlements_concat noSettle]
    exact accounts.once
  case replies =>
    intro launch other reply cancels sublist
    rcases Log.sublist_triple_concat_iff.1 sublist with older | ⟨_, last⟩
    · exact accounts.replies launch other reply cancels older
    · exact absurd last.symm (noSettle _ _)
  case limit =>
    rw [history]
    exact accounts.limit
  case history =>
    obtain ⟨records, recorded, kept⟩ := accounts.history
    rw [Log.settlements_concat noSettle, history]
    exact ⟨records, recorded.imp fun _ _ told => told.concat _, kept⟩

theorem cancel (accounts : Accounts capacity executions log) (id : ExecutionId) :
    Accounts capacity (executions.cancel id).1
      (log ++ [.cancelled id (executions.cancel id).2]) := by
  cases found : executions.pending.get? id with
  | none =>
      have unchanged : executions.cancel id = (executions, false) := by
        rw [Executions.cancel, found]
      rw [unchanged]
      refine accounts.cancelling (by simp) (by simp) rfl ?_ ?_ rfl rfl
      · intro flight member cause
        rcases accounts.fired_or_pending member with already | isPending
        · exact already
        · rcases cause with older | same
          · exact accounts.fired flight member older
          · change id = flight.id at same
            rw [← same, found] at isPending
            cases isPending
      · intro other serial
        constructor
        · intro isPending
          refine ⟨isPending, ?_⟩
          intro same
          change id = other at same
          rw [← same, found] at isPending
          cases isPending
        · exact fun both => both.1
  | some serial =>
      have changed : executions.cancel id =
          ({ executions with pending := executions.pending.erase id }.fire [serial], true) := by
        rw [Executions.cancel, found]
      rw [changed]
      refine accounts.cancelling (by simp) (by simp) (Executions.launches_fire [serial]) ?_ ?_
        rfl rfl
      · intro flight member cause
        obtain ⟨older, olderMember, same⟩ := Executions.mem_flights_fire.1 member
        rw [same] at cause ⊢
        rcases accounts.fired_or_pending olderMember with already | isPending
        · simp [already]
        · rcases cause with wasCancelled | sameId
          · simp [accounts.fired older olderMember wasCancelled]
          · change id = older.id at sameId
            rw [← sameId, found] at isPending
            cases isPending
            simp
      · intro other otherSerial
        change (executions.pending.erase id).get? other = some otherSerial ↔
          executions.pending.get? other = some otherSerial ∧ ¬ id = other
        rw [SortedMap.get?_erase]
        split
        · next same => simp [same]
        · next different => simp [different]

theorem cancelAll (accounts : Accounts capacity executions log) :
    Accounts capacity executions.cancelAll.1
      (log ++ [.cancelledAll executions.cancelAll.2]) := by
  refine accounts.cancelling (by simp) (by simp) (Executions.launches_fire _) ?_ ?_ rfl rfl
  · intro flight member _
    obtain ⟨older, olderMember, same⟩ := Executions.mem_flights_fire.1 member
    rw [same]
    rcases accounts.fired_or_pending olderMember with already | isPending
    · simp [already]
    · have inValues : older.serial ∈ executions.pending.values :=
        List.mem_map.2 ⟨_, SortedMap.mem_of_get? isPending, rfl⟩
      have contained : executions.pending.values.contains older.serial = true := by
        simpa using inValues
      rw [contained, Bool.or_true]
  · intro id serial
    change (SortedMap.empty : SortedMap ExecutionId Nat).get? id = some serial ↔ _
    simp [Happening.Cancels]

/-! ## What the account answers -/

theorem isPending_iff (accounts : Accounts capacity executions log) (id : ExecutionId) :
    executions.isPending id = true ↔ log.Pending id := by
  rw [Executions.isPending, SortedMap.contains, Option.isSome_iff_exists]
  constructor
  · rintro ⟨serial, found⟩
    obtain ⟨launch, sameId, _, flying, uncancelled⟩ := (accounts.pending id serial).1 found
    exact ⟨launch, sameId, flying, uncancelled⟩
  · rintro ⟨launch, sameId, flying, uncancelled⟩
    exact ⟨launch.serial, (accounts.pending id _).2
      ⟨launch, sameId, rfl, flying, uncancelled⟩⟩

theorem found_iff (accounts : Accounts capacity executions log) (id : ExecutionId) :
    (executions.cancel id).2 = true ↔ log.Pending id := by
  rw [← accounts.isPending_iff, Executions.isPending, SortedMap.contains, Executions.cancel]
  cases executions.pending.get? id <;> simp

/-- Cancelling everything counts the identifiers that are pending. -/
theorem count_cancelAll (accounts : Accounts capacity executions log) :
    ∃ ids : List ExecutionId, ids.Nodup ∧ (∀ id, id ∈ ids ↔ log.Pending id) ∧
      executions.cancelAll.2 = ids.length := by
  refine ⟨executions.pending.keys, ?_, ?_, ?_⟩
  · exact executions.pending.nodup_keys
  · intro id
    rw [← accounts.isPending_iff]
    exact executions.pending.mem_keys_iff
  · simp [Executions.cancelAll, SortedMap.size, SortedMap.keys]

end Accounts

end ChatOps
