import ChatOps.Dispatch
import ChatOps.Executions
import ChatOps.Setup

/-!
# The engine

Executions of commands from dispatch to reply.  Each runs as far as it can when it
begins and whenever what it waits for has happened.
-/

set_option autoImplicit false

namespace ChatOps

/-- The registry and the account of executions. -/
structure Engine where
  registry : Registry
  executions : Executions

/-- What executions can see of the world around them. -/
structure Surroundings where
  store : PluginStore
  openGates : List String
  now : Instant

/-- How far an execution has come. -/
inductive Stage where
  | settled (reply : Reply)
  | waiting (serial : Nat) (rest : Routine Dispatch.Outcome)

namespace Engine

/-- The reply to how an execution has ended, unless it was cancelled. -/
def produced (engine : Engine) (store : PluginStore) (command : Command) :
    Dispatch.Outcome → Reply
  | .ok output => output.toReply
  | .error (.failure (.unavailable plugin availability)) =>
      Setup.reply store command plugin availability
  | .error (.failure error) => Reply.ofFailure error
  | .error (.miss miss) => Reply.ofFailure (miss.failure engine.registry.tables)

/-- Settle an execution whose handler has ended. -/
def settle (engine : Engine) (around : Surroundings) (flight : Flight)
    (outcome : Dispatch.Outcome) : Engine × Reply :=
  let (executions, reply) :=
    engine.executions.settle flight
      (engine.produced around.store flight.command outcome) around.now
  ({ engine with executions := executions }, reply)

/-- Leave an execution waiting; it may have cancelled itself. -/
def park (engine : Engine) (flight : Flight) : Engine :=
  if flight.cancelled then
    { engine with executions := engine.executions.fire [flight.serial] }
  else engine

/-- Run an execution as far as it can, and settle it at its end. -/
def advance (engine : Engine) (around : Surroundings) (flight : Flight)
    (routine : Routine Dispatch.Outcome) : Engine × Stage :=
  let (cancelled, progress) :=
    routine.advance around.openGates.contains flight.cancelled
  let current := { flight with cancelled := cancelled }
  match progress with
  | .waiting rest => (engine.park current, .waiting flight.serial rest)
  | .finished outcome =>
      let (after, reply) := engine.settle around current outcome
      (after, .settled reply)

/-- Begin an execution under an identifier and run it as far as it can. -/
def execute (engine : Engine) (around : Surroundings) (id : ExecutionId)
    (command : Command) : Engine × Stage :=
  let todo := Dispatch.ofCommand engine.registry.tables around.store command
  let (executions, flight) := engine.executions.begin id command
  let (registry, routine) := todo.start engine.registry
  (⟨registry, executions⟩ : Engine).advance around flight routine

/-- Run a waiting execution further. -/
def resume (engine : Engine) (around : Surroundings) (serial : Nat)
    (routine : Routine Dispatch.Outcome) : Engine × Stage :=
  match engine.executions.flight? serial with
  | some flight => engine.advance around flight routine
  | none => (engine, .waiting serial routine)

end Engine

end ChatOps
