import ChatOps.Proofs.Execution.Log

/-!
# Executions under way

The account lists the executions under way, and `Traced` says that these are the ones in
flight by a log, each with a serial number of its own.  It holds after every beginning and
settling, also where several executions share an identifier.
-/

set_option autoImplicit false

namespace ChatOps

namespace Executions

variable {executions : Executions}

theorem mem_flights_fire {serials : List Nat} {flight : Flight} :
    flight ∈ (executions.fire serials).flights ↔
      ∃ older ∈ executions.flights,
        flight = { older with cancelled := older.cancelled || serials.contains older.serial } := by
  simp only [Executions.fire, List.mem_map]
  constructor
  · rintro ⟨older, member, same⟩
    refine ⟨older, member, ?_⟩
    rw [← same]
    cases hit : serials.contains older.serial <;> simp
  · rintro ⟨older, member, same⟩
    refine ⟨older, member, ?_⟩
    rw [same]
    cases hit : serials.contains older.serial <;> simp

theorem launches_fire (serials : List Nat) :
    (executions.fire serials).flights.map Flight.launch =
      executions.flights.map Flight.launch := by
  simp only [Executions.fire, List.map_map]
  apply List.map_congr_left
  intro flight _
  simp only [Function.comp_apply]
  split <;> rfl

end Executions

structure Traced (executions : Executions) (log : Log) : Prop where
  serials : ∀ launch, .began launch ∈ log → launch.serial < executions.started
  unique : ∀ first second, .began first ∈ log → .began second ∈ log →
    first.serial = second.serial → first = second
  flights : ∀ launch, launch ∈ executions.flights.map Flight.launch ↔ log.InFlight launch
  begun : ∀ serial reply, .settled serial reply ∈ log →
    ∃ launch : Launch, launch.serial = serial ∧ .began launch ∈ log

namespace Traced

variable {executions : Executions} {log : Log}

theorem empty (capacity : Nat) : Traced (.empty capacity) [] where
  serials := by simp
  unique := by simp
  flights := by simp [Executions.empty, Log.InFlight]
  begun := by simp

theorem inFlight_launch (traced : Traced executions log) {flight : Flight}
    (member : flight ∈ executions.flights) : log.InFlight flight.launch :=
  (traced.flights _).1 (List.mem_map_of_mem member)

theorem serial_lt (traced : Traced executions log) {flight : Flight}
    (member : flight ∈ executions.flights) : flight.serial < executions.started :=
  traced.serials _ (traced.inFlight_launch member).1

/-- The next serial number is new. -/
theorem not_began (traced : Traced executions log) (id : ExecutionId) (command : Command) :
    .began ⟨executions.started, id, command⟩ ∉ log := fun begun =>
  Nat.lt_irrefl _ (traced.serials _ begun)

theorem not_settled (traced : Traced executions log) (reply : Reply) :
    .settled executions.started reply ∉ log := by
  intro settled
  obtain ⟨launch, same, begun⟩ := traced.begun _ reply settled
  have earlier := traced.serials launch begun
  rw [same] at earlier
  exact Nat.lt_irrefl _ earlier

theorem inFlight_concat_began_iff (traced : Traced executions log)
    (id : ExecutionId) (command : Command) (launch : Launch) :
    Log.InFlight (log ++ [.began ⟨executions.started, id, command⟩]) launch ↔
      log.InFlight launch ∨ launch = ⟨executions.started, id, command⟩ := by
  simp only [Log.InFlight, List.mem_append, List.mem_singleton, Happening.began.injEq,
    reduceCtorEq, or_false]
  constructor
  · rintro ⟨older | new, unsettled⟩
    · exact .inl ⟨older, unsettled⟩
    · exact .inr new
  · rintro (⟨older, unsettled⟩ | rfl)
    · exact ⟨.inl older, unsettled⟩
    · exact ⟨.inr rfl, traced.not_settled⟩

theorem begin (traced : Traced executions log) (id : ExecutionId) (command : Command) :
    Traced (executions.begin id command).1
      (log ++ [.began ⟨executions.started, id, command⟩]) := by
  constructor
  case serials =>
    intro launch member
    rcases List.mem_append.1 member with older | new
    · exact Nat.lt_succ_of_lt (traced.serials launch older)
    · cases List.mem_singleton.1 new
      exact Nat.lt_succ_self _
  case unique =>
    intro first second firstBegun secondBegun same
    rcases List.mem_append.1 firstBegun with firstOlder | firstNew
    · rcases List.mem_append.1 secondBegun with secondOlder | secondNew
      · exact traced.unique first second firstOlder secondOlder same
      · cases List.mem_singleton.1 secondNew
        exact absurd same (Nat.ne_of_lt (traced.serials first firstOlder))
    · cases List.mem_singleton.1 firstNew
      rcases List.mem_append.1 secondBegun with secondOlder | secondNew
      · exact absurd same (Nat.ne_of_gt (traced.serials second secondOlder))
      · cases List.mem_singleton.1 secondNew
        rfl
  case flights =>
    intro launch
    rw [traced.inFlight_concat_began_iff id command, ← traced.flights launch]
    simp [Executions.begin, Flight.launch]
  case begun =>
    intro serial reply settled
    rcases List.mem_append.1 settled with older | new
    · obtain ⟨launch, same, member⟩ := traced.begun serial reply older
      exact ⟨launch, same, List.mem_append_left _ member⟩
    · cases List.mem_singleton.1 new

theorem settle (traced : Traced executions log) (flight : Flight)
    (inFlight : log.InFlight flight.launch) (produced : Reply) (now : Instant) :
    Traced (executions.settle flight produced now).1
      (log ++ [.settled flight.serial (executions.settle flight produced now).2]) := by
  constructor
  case serials =>
    intro launch member
    rcases List.mem_append.1 member with older | new
    · exact traced.serials launch older
    · cases List.mem_singleton.1 new
  case unique =>
    intro first second firstBegun secondBegun same
    rcases List.mem_append.1 firstBegun with firstOlder | firstNew
    · rcases List.mem_append.1 secondBegun with secondOlder | secondNew
      · exact traced.unique first second firstOlder secondOlder same
      · cases List.mem_singleton.1 secondNew
    · cases List.mem_singleton.1 firstNew
  case flights =>
    intro launch
    rw [Log.inFlight_concat_settled_iff, ← traced.flights launch]
    simp only [Executions.settle, List.mem_map, List.mem_filter, bne_iff_ne]
    constructor
    · rintro ⟨other, ⟨member, different⟩, same⟩
      exact ⟨⟨other, member, same⟩, by rw [← same]; exact different⟩
    · rintro ⟨⟨other, member, same⟩, different⟩
      exact ⟨other, ⟨member, by rw [← same] at different; exact different⟩, same⟩
  case begun =>
    intro serial reply settled
    rcases List.mem_append.1 settled with older | new
    · obtain ⟨launch, same, member⟩ := traced.begun serial reply older
      exact ⟨launch, same, List.mem_append_left _ member⟩
    · cases List.mem_singleton.1 new
      exact ⟨flight.launch, rfl, List.mem_append_left _ inFlight.1⟩

theorem of_same {after : Executions} (traced : Traced executions log)
    (launches : after.flights.map Flight.launch = executions.flights.map Flight.launch)
    (started : after.started = executions.started) : Traced after log where
  serials := by
    rw [started]
    exact traced.serials
  unique := traced.unique
  flights := by
    rw [launches]
    exact traced.flights
  begun := traced.begun

/-- What neither begins nor settles an execution leaves the same ones in flight. -/
theorem concat {happening : Happening} (traced : Traced executions log)
    (noBegin : ∀ other, happening ≠ .began other)
    (noSettle : ∀ serial reply, happening ≠ .settled serial reply) :
    Traced executions (log ++ [happening]) := by
  have begunBefore : ∀ launch, .began launch ∈ log ++ [happening] → .began launch ∈ log := by
    intro launch member
    rcases List.mem_append.1 member with older | new
    · exact older
    · exact absurd (List.mem_singleton.1 new).symm (noBegin launch)
  constructor
  case serials => exact fun launch member => traced.serials launch (begunBefore launch member)
  case unique =>
    intro first second firstBegun secondBegun
    exact traced.unique first second (begunBefore first firstBegun)
      (begunBefore second secondBegun)
  case flights =>
    intro launch
    rw [Log.inFlight_concat_iff noBegin noSettle]
    exact traced.flights launch
  case begun =>
    intro serial reply settled
    rcases List.mem_append.1 settled with older | new
    · obtain ⟨launch, same, member⟩ := traced.begun serial reply older
      exact ⟨launch, same, List.mem_append_left _ member⟩
    · exact absurd (List.mem_singleton.1 new).symm (noSettle serial reply)

end Traced

end ChatOps
