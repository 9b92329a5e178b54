import ChatOps.History

/-!
# The executions

Keeps account of executions: which are under way, which of them can still be
cancelled by their identifier, and how the last ones ended.  An execution is
under way from its beginning until it settles.
-/

set_option autoImplicit false

namespace ChatOps

/-- An execution under way. -/
structure Flight where
  serial : Nat
  id : ExecutionId
  command : Command
  cancelled : Bool

/-- The account of executions.  `pending` leads from an identifier to the execution
that last began under it. -/
structure Executions where
  pending : SortedMap ExecutionId Nat
  flights : List Flight
  history : History
  started : Nat

namespace Executions

/-- No execution has begun. -/
def empty (capacity : Nat) : Executions := ⟨.empty, [], .empty capacity, 0⟩

/-- Begin an execution, which gets the next serial number. -/
def begin (executions : Executions) (id : ExecutionId) (command : Command) :
    Executions × Flight :=
  let flight : Flight := ⟨executions.started, id, command, false⟩
  ({ executions with
      pending := executions.pending.insert id flight.serial
      flights := executions.flights ++ [flight]
      started := executions.started + 1 },
    flight)

/-- The execution with a serial number, if it is under way. -/
def flight? (executions : Executions) (serial : Nat) : Option Flight :=
  executions.flights.find? fun flight => flight.serial == serial

/-- Mark executions as cancelled. -/
def fire (executions : Executions) (serials : List Nat) : Executions :=
  { executions with
    flights := executions.flights.map fun flight =>
      if serials.contains flight.serial then { flight with cancelled := true }
      else flight }

/-- Whether an identifier can be cancelled. -/
def isPending (executions : Executions) (id : ExecutionId) : Bool :=
  executions.pending.contains id

/-- Cancel the execution that last began under an identifier, if it is pending. -/
def cancel (executions : Executions) (id : ExecutionId) : Executions × Bool :=
  match executions.pending.get? id with
  | some serial =>
      ({ executions with pending := executions.pending.erase id }.fire [serial], true)
  | none => (executions, false)

/-- Cancel everything that is pending, and count it. -/
def cancelAll (executions : Executions) : Executions × Nat :=
  ({ executions with pending := .empty }.fire executions.pending.values,
    executions.pending.size)

/-- The reply of an execution: what its handler has produced, unless it was
cancelled. -/
def replyOf (flight : Flight) (produced : Reply) : Reply :=
  if flight.cancelled then .cancelled else produced

/-- Settle an execution: nothing is pending under its identifier any more, and its
reply goes into the history. -/
def settle (executions : Executions) (flight : Flight) (produced : Reply)
    (now : Instant) : Executions × Reply :=
  let reply := replyOf flight produced
  ({ executions with
      pending := executions.pending.erase flight.id
      flights := executions.flights.filter fun other => other.serial != flight.serial
      history := executions.history.push ⟨flight.id, flight.command, reply, now, .none⟩ },
    reply)

end Executions

end ChatOps
