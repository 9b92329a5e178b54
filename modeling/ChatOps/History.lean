import ChatOps.Command
import ChatOps.ExecutionId
import ChatOps.Newest
import ChatOps.Reply
import ChatOps.Time.Instant

/-!
# History

The record of every execution that has settled, whatever its outcome, kept up to
a capacity: a new record pushes out the oldest.
-/

set_option autoImplicit false

namespace ChatOps

/-- How long an execution took. -/
structure Elapsed where
  seconds : Nat
  nanos : Nat
  deriving DecidableEq

namespace Elapsed

def none : Elapsed := ⟨0, 0⟩

def ofMillis (millis : Nat) : Elapsed :=
  ⟨millis / 1000, millis % 1000 * Instant.nanosPerMilli⟩

def toJson (elapsed : Elapsed) : Json :=
  Json.ofMembers
    [("secs", Json.ofNat elapsed.seconds), ("nanos", Json.ofNat elapsed.nanos)]

def fields : List Json.Field := [⟨"secs", .required⟩, ⟨"nanos", .required⟩]

/-- The names of the members, to which none may be added. -/
def memberNames : List String := ["nanos", "secs"]

/-- Whole seconds of the nanoseconds are carried over. -/
def ofJson? (json : Json) : Option Elapsed :=
  let known :=
    match json with
    | .object members => members.all fun entry => memberNames.contains entry.1
    | _ => true
  match json.fields? fields with
  | some [seconds, nanos] => do
      let seconds ← Json.given? (Json.asNatBelow? UInt64.size) seconds
      let nanos ← Json.given? (Json.asNatBelow? UInt32.size) nanos
      let total := seconds + nanos / Instant.nanosPerSecond
      if known && decide (total < UInt64.size) then
        some ⟨total, nanos % Instant.nanosPerSecond⟩
      else .none
  | _ => .none

end Elapsed

/-- What is kept of one execution. -/
structure ExecutionRecord where
  id : ExecutionId
  command : Command
  reply : Reply
  settledAt : Instant
  elapsed : Elapsed

namespace ExecutionRecord

def toJson (record : ExecutionRecord) : Json :=
  Json.ofMembers
    [("id", record.id.toJson), ("command", record.command.toJson),
      ("result", record.reply.toJson), ("timestamp", .string record.settledAt.text),
      ("elapsed", record.elapsed.toJson)]

def fields : List Json.Field :=
  [⟨"id", .required⟩, ⟨"command", .required⟩, ⟨"result", .required⟩,
    ⟨"timestamp", .required⟩, ⟨"elapsed", .required⟩]

def ofJson? (json : Json) : Option ExecutionRecord :=
  match json.fields? fields with
  | some [id, command, reply, settledAt, elapsed] => do
      let id ← Json.given? ExecutionId.ofJson? id
      let command ← Json.given? Command.ofJson? command
      let reply ← Json.given? Reply.ofJson? reply
      let written ← Json.given? Json.asString? settledAt
      let settledAt ← Instant.ofText? written
      let elapsed ← Json.given? Elapsed.ofJson? elapsed
      some ⟨id, command, reply, settledAt, elapsed⟩
  | _ => none

end ExecutionRecord

/-- The records of the newest executions, oldest first. -/
structure History where
  capacity : Nat
  records : List ExecutionRecord
  bounded : records.length ≤ capacity

namespace History

def empty (capacity : Nat) : History := ⟨capacity, [], Nat.zero_le _⟩

/-- Add a record; the oldest ones go where there are too many. -/
def push (history : History) (record : ExecutionRecord) : History :=
  { capacity := history.capacity
    records := newest history.capacity (history.records ++ [record])
    bounded := length_newest_le _ _ }

def size (history : History) : Nat := history.records.length

def isEmpty (history : History) : Bool := history.records.isEmpty

/-- The record of the execution that settled last. -/
def latest? (history : History) : Option ExecutionRecord := history.records.getLast?

theorem records_push (history : History) (record : ExecutionRecord) :
    (history.push record).records =
      newest history.capacity (history.records ++ [record]) := rfl

/-- Pushing many records keeps the newest of them all. -/
theorem records_foldl_push (history : History) (records : List ExecutionRecord) :
    (records.foldl push history).records =
      newest history.capacity (history.records ++ records) := by
  induction records generalizing history with
  | nil => simp [newest_of_length_le history.bounded]
  | cons record rest inductionHypothesis =>
      rw [List.foldl_cons, inductionHypothesis, records_push]
      simp only [push]
      rw [newest_newest_append, List.append_assoc, List.singleton_append]

end History

end ChatOps
