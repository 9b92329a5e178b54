import ChatOps.Engine
import ChatOps.Proofs.Execution.Ending
import ChatOps.Proofs.Registry.Announcements

/-!
# Cancellations and failures

A reply reports a cancellation by the text of its error.  No text that is put together for a
failure is that text, but a handler may give it as the reason of an ordinary failure.  So a
reply tells a cancellation from a failure unless that is what has happened
(`distinguishes_iff`).
-/

set_option autoImplicit false

namespace ChatOps

/-! ## Replies that report a cancellation -/

namespace Reply

variable {reply : Reply} {text : String} {failure : Failure}

theorem isCancelled_of_success (succeeded : reply.success = true) :
    reply.isCancelled = false := by
  rw [isCancelled, succeeded]
  rfl

/-- The mark of a cancellation is a single word. -/
theorem isCancelled_of_blank (described : reply.error = some text)
    (blank : ' ' ∈ text.toList) : reply.isCancelled = false := by
  have different : text ≠ cancelledMark := by
    rintro rfl
    exact absurd blank (by decide +kernel)
  simp [isCancelled, described, different]

theorem isCancelled_ofFailure_unknown (command : String) (suggestions : List String) :
    (ofFailure (.unknown command suggestions)).isCancelled = false := by
  have described : (ofFailure (.unknown command suggestions)).error =
      some ("unknown command '" ++ command ++ "'") := rfl
  exact isCancelled_of_blank described (by simp)

theorem isCancelled_ofFailure_execution_iff :
    (ofFailure (.execution text)).isCancelled = true ↔ text = cancelledMark := by
  have isFailure : ofFailure (.execution text) = .failure text := rfl
  simp [isFailure, isCancelled, Reply.failure, bare]

end Reply

/-- A handler is taken to have been cancelled if it has, or has failed for a reason that
reads so. -/
theorem HandlerError.isCancelled_ofFailure_iff (error : HandlerError) :
    (Reply.ofFailure error.toFailure).isCancelled = true ↔
      error = .cancelled ∨ error = .failed Reply.cancelledMark := by
  cases error with
  | failed reason =>
      have isExecution : (HandlerError.failed reason).toFailure = .execution reason := rfl
      rw [isExecution, Reply.isCancelled_ofFailure_execution_iff]
      simp
  | invalidArguments reason =>
      have described : (Reply.ofFailure (HandlerError.invalidArguments reason).toFailure).error =
          some ("invalid arguments: " ++ reason) := rfl
      have notCancelled := Reply.isCancelled_of_blank described (by simp)
      simp [notCancelled]
  | cancelled =>
      have isCancelled : (Reply.ofFailure HandlerError.cancelled.toFailure).isCancelled = true :=
        rfl
      simp [isCancelled]

/-! ## What is returned -/

namespace Dispatch

/-- What the code has returned that was run for a command, or why none was run. -/
inductive Returned where
  | handler (outcome : HandlerOutcome)
  | plugin (outcome : PluginOutcome) (otherwise : Miss)
  | unready (id : String) (availability : Availability)
  | unknown (miss : Miss)

namespace Returned

/-- How an execution ends whose code has returned so. -/
def outcome : Returned → Dispatch.Outcome
  | .handler returned => ofHandler returned
  | .plugin returned otherwise => ofPlugin otherwise returned
  | .unready id availability => .error (.failure (.unavailable id availability))
  | .unknown miss => .error (.miss miss)

def output? : Returned → Option Output
  | .handler (.ok output) => some output
  | .plugin (.ok output) _ => some output
  | _ => none

def error? : Returned → Option HandlerError
  | .handler (.error error) => some error
  | .plugin (.error (.handler error)) _ => some error
  | _ => none

end Returned

/-- The code that is run, up to what it returns. -/
def code (registry : Registry) : Dispatch → Routine Returned
  | .invoke handler given => (registry.call handler given).2.map .handler
  | .delegate plugin given miss => (plugin.run given).map (.plugin · miss)
  | .unavailable id availability => .done (.unready id availability)
  | .unknown miss => .done (.unknown miss)

theorem start_eq (registry : Registry) (todo : Dispatch) :
    (todo.start registry).2 = (todo.code registry).map Returned.outcome := by
  cases todo with
  | invoke handler given => exact (Routine.map_map _ Returned.handler Returned.outcome).symm
  | delegate plugin given miss =>
      exact (Routine.map_map _ (Returned.plugin · miss) Returned.outcome).symm
  | unavailable id availability => rfl
  | unknown miss => rfl

end Dispatch

/-- Whether an output is a reply already, or of the old shape, which brings its own error. -/
def Output.ReadyMade : Output → Prop
  | .reply _ => True
  | .legacy _ _ => True
  | _ => False

theorem Output.isCancelled_toReply {output : Output} (plain : ¬ output.ReadyMade) :
    output.toReply.isCancelled = false := by
  cases output with
  | reply finished => exact absurd trivial plain
  | legacy content error => exact absurd trivial plain
  | _ => exact Reply.isCancelled_of_success rfl

open Dispatch

namespace Engine

variable {returned : Returned}

theorem produced_toFailure (engine : Engine) (store : PluginStore) (command : Command)
    (error : HandlerError) :
    engine.produced store command (.error (.failure error.toFailure)) =
      Reply.ofFailure error.toFailure := by
  cases error <;> rfl

theorem isCancelled_produced_miss (engine : Engine) (store : PluginStore) (command : Command)
    (miss : Miss) :
    (engine.produced store command (.error (.miss miss))).isCancelled = false := by
  cases miss <;> exact Reply.isCancelled_ofFailure_unknown ..

theorem isCancelled_produced_unavailable (engine : Engine) (store : PluginStore)
    (command : Command) (id : String) (availability : Availability) :
    (engine.produced store command
      (.error (.failure (.unavailable id availability)))).isCancelled = false := by
  have described : (engine.produced store command
      (.error (.failure (.unavailable id availability)))).error =
        some (id ++ " is " ++ availability.words) := rfl
  exact Reply.isCancelled_of_blank described (by simp)

/-- A reply that the code has not made up itself reports a cancellation just if the code
has, or has failed for a reason that reads so. -/
theorem isCancelled_produced_iff (engine : Engine) (store : PluginStore) (command : Command)
    (plain : ∀ output, returned.output? = some output → ¬ output.ReadyMade) :
    (engine.produced store command returned.outcome).isCancelled = true ↔
      returned.error? = some .cancelled ∨
        returned.error? = some (.failed Reply.cancelledMark) := by
  have ofError (error : HandlerError) :
      (engine.produced store command (.error (.failure error.toFailure))).isCancelled = true ↔
        some error = some .cancelled ∨ some error = some (.failed Reply.cancelledMark) := by
    rw [produced_toFailure, error.isCancelled_ofFailure_iff, Option.some.injEq, Option.some.injEq]
  -- Without an error of a handler, the reply must not report a cancellation.
  have ofNone (noError : returned.error? = none)
      (notCancelled : (engine.produced store command returned.outcome).isCancelled = false) :
      (engine.produced store command returned.outcome).isCancelled = true ↔
        returned.error? = some .cancelled ∨
          returned.error? = some (.failed Reply.cancelledMark) := by
    simp [noError, notCancelled]
  cases returned with
  | handler outcome =>
      cases outcome with
      | ok output => exact ofNone rfl (Output.isCancelled_toReply (plain output rfl))
      | error error => exact ofError error
  | plugin outcome otherwise =>
      cases outcome with
      | ok output => exact ofNone rfl (Output.isCancelled_toReply (plain output rfl))
      | error error =>
          cases error with
          | unsupported id name =>
              exact ofNone rfl (isCancelled_produced_miss engine store command otherwise)
          | handler error => exact ofError error
          | runtime reason =>
              have described : (engine.produced store command
                  (Returned.plugin (.error (.runtime reason)) otherwise).outcome).error =
                    some ("plugin runtime error: " ++ reason) := rfl
              exact ofNone rfl (Reply.isCancelled_of_blank described (by simp))
  | unready id availability =>
      exact ofNone rfl (isCancelled_produced_unavailable engine store command id availability)
  | unknown miss => exact ofNone rfl (isCancelled_produced_miss engine store command miss)

/-! ## From beginning to end -/

/-- How far an execution has come, and how far its code, with whether the execution was
cancelled by then.  It begins in any state, and goes on in any state in which it is under
way. -/
inductive Course : Stage → Bool → Routine.Progress Returned → Prop where
  | begun (engine : Engine) (around : Surroundings) (id : ExecutionId) (command : Command)
      {cancelled : Bool} {progress : Routine.Progress Returned}
      (step : ((Dispatch.ofCommand engine.registry.tables around.store command).code
        engine.registry).advance around.openGates.contains false = (cancelled, progress)) :
      Course (engine.execute around id command).2 cancelled progress
  | resumed {serial : Nat} {routine : Routine Outcome} {earlier cancelled : Bool}
      {code : Routine Returned} {progress : Routine.Progress Returned}
      (before : Course (.waiting serial routine) earlier (.waiting code)) (engine : Engine)
      (around : Surroundings) {flight : Flight}
      (underWay : engine.executions.flight? serial = some flight)
      (step : code.advance around.openGates.contains flight.cancelled = (cancelled, progress)) :
      Course (engine.resume around serial routine).2 cancelled progress

/-- Whether an execution is where its code is: it waits for the same, or it has settled with
the reply to what was returned, or with that to a cancellation. -/
def Follows (stage : Stage) (cancelled : Bool) : Routine.Progress Returned → Prop
  | .waiting code => ∃ serial, stage = .waiting serial (code.map Returned.outcome)
  | .finished returned => ∃ (engine : Engine) (store : PluginStore) (command : Command),
      stage = .settled
        (if cancelled then .cancelled else engine.produced store command returned.outcome)

variable {stage : Stage} {cancelled : Bool} {progress : Routine.Progress Returned}

theorem follows_advance (engine : Engine) (around : Surroundings) (flight : Flight)
    {code : Routine Returned}
    (step : code.advance around.openGates.contains flight.cancelled = (cancelled, progress)) :
    Follows (engine.advance around flight (code.map Returned.outcome)).2 cancelled progress := by
  rw [advance, Routine.advance_map, step]
  cases progress with
  | waiting rest => exact ⟨flight.serial, rfl⟩
  | finished returned => exact ⟨engine, around.store, flight.command, rfl⟩

theorem execute_eq (engine : Engine) (around : Surroundings) (id : ExecutionId)
    (command : Command) :
    let todo := Dispatch.ofCommand engine.registry.tables around.store command
    let begun := engine.executions.begin id command
    engine.execute around id command =
      (⟨(todo.start engine.registry).1, begun.1⟩ : Engine).advance around begun.2
        ((todo.code engine.registry).map Returned.outcome) := by
  intro todo begun
  rw [← start_eq]
  rfl

theorem Course.follows (course : Course stage cancelled progress) :
    Follows stage cancelled progress := by
  induction course with
  | begun engine around id command step =>
      rw [execute_eq]
      exact follows_advance _ around _ step
  | resumed before engine around underWay step inductionHypothesis =>
      obtain ⟨_, isWaiting⟩ := inductionHypothesis
      cases isWaiting
      simp only [resume, underWay]
      exact follows_advance engine around _ step

/-- Whether a reply tells a cancellation from all else: it reports one just if the execution
was cancelled before the code returned, or the code returned that it was. -/
def Distinguishes (reply : Reply) (cancelled : Bool) (returned : Returned) : Prop :=
  reply.isCancelled = true ↔ cancelled = true ∨ returned.error? = some .cancelled

/-- Whether an execution that was not cancelled has failed for a reason that reads as if it
was. -/
structure Misread (cancelled : Bool) (returned : Returned) : Prop where
  uncancelled : cancelled = false
  reads : returned.error? = some (.failed Reply.cancelledMark)

theorem distinguishes_settled_iff (engine : Engine) (store : PluginStore) (command : Command)
    (cancelled : Bool)
    (plain : ∀ output, returned.output? = some output → ¬ output.ReadyMade) :
    Distinguishes
        (if cancelled then .cancelled else engine.produced store command returned.outcome)
        cancelled returned ↔ ¬ Misread cancelled returned := by
  have produced := isCancelled_produced_iff engine store command plain
  cases cancelled with
  | true =>
      have notMisread : ¬ Misread true returned := fun misread => nomatch misread.uncancelled
      exact ⟨fun _ => notMisread, fun _ => ⟨fun _ => .inl rfl, fun _ => rfl⟩⟩
  | false =>
      constructor
      · intro distinguishes misread
        rcases distinguishes.1 (produced.2 (.inr misread.reads)) with wrong | isCancelled
        · cases wrong
        · cases isCancelled.symm.trans misread.reads
      · intro notMisread
        constructor
        · intro reports
          rcases produced.1 reports with isCancelled | reads
          · exact .inr isCancelled
          · exact absurd ⟨rfl, reads⟩ notMisread
        · rintro (wrong | isCancelled)
          · cases wrong
          · exact produced.2 (.inl isCancelled)

/-- Whatever the states in which an execution begins and goes on, if the code has not made up
the reply itself, then the reply tells a cancellation from all else, unless there is a failure
that reads like one. -/
theorem distinguishes_iff {reply : Reply} (course : Course (.settled reply) cancelled progress) :
    ∃ returned, progress = .finished returned ∧
      ((∀ output, returned.output? = some output → ¬ output.ReadyMade) →
        (Distinguishes reply cancelled returned ↔ ¬ Misread cancelled returned)) := by
  have follows := course.follows
  cases progress with
  | waiting rest =>
      obtain ⟨_, isWaiting⟩ := follows
      cases isWaiting
  | finished returned =>
      obtain ⟨engine, store, command, isSettled⟩ := follows
      cases isSettled
      exact ⟨returned, rfl, distinguishes_settled_iff engine store command cancelled⟩

/-! ## A command of its own -/

/-- An engine where one command is registered by hand. -/
def pulling (code : HandlerCode) : Engine :=
  ⟨(Registry.ofPlugins .empty ⟨[], none⟩).registered (.domain .git "pull") (.custom code),
    .empty 2⟩

theorem ofCommand_pulling (code : HandlerCode) :
    ofCommand (pulling code).registry.tables .empty (.forDomain .git "pull") =
      .invoke (.custom code) (invocation (.forDomain .git "pull")) := by
  have step := Registry.registers (.ofPlugins .empty ⟨[], none⟩)
    (.domain .git "pull") (.custom code)
  have accepted : (Registry.ofPlugins .empty ⟨[], none⟩).accepts (.domain .git "pull")
      (.custom code) = true := step.accepted_iff.2 (by decide +kernel)
  have bound := (step.bound accepted (.domain .git) "pull").1
  rw [if_pos ⟨rfl, rfl⟩] at bound
  have found : (pulling code).registry.tables.handler? (.domain .git) "pull" =
      some (.custom code) := Tables.handler?_of_find? bound
  have noPlugin : PluginStore.empty.ofDomain? .git = none := rfl
  have isOfDomain : ofCommand (pulling code).registry.tables .empty (.forDomain .git "pull") =
      ofDomain (pulling code).registry.tables .empty .git (.forDomain .git "pull") := rfl
  have hit : domainMatch? (pulling code).registry.tables .git (.forDomain .git "pull") =
      some ⟨.custom code, invocation (.forDomain .git "pull")⟩ :=
    congrArg (Option.map _) found
  rw [isOfDomain, ofDomain, noPlugin, hit]
  rfl

theorem Course.pulling (code : HandlerCode) (around : Surroundings)
    (noPlugins : around.store = .empty) {cancelled : Bool}
    {progress : Routine.Progress HandlerOutcome}
    (step : (code (invocation (.forDomain .git "pull"))).advance around.openGates.contains false =
      (cancelled, progress)) :
    Course ((pulling code).execute around ⟨7⟩ (.forDomain .git "pull")).2 cancelled
      (progress.map .handler) := by
  apply Course.begun
  rw [noPlugins, ofCommand_pulling]
  have mapped := Routine.advance_map around.openGates.contains false Returned.handler
    (code (invocation (.forDomain .git "pull")))
  rw [step] at mapped
  exact mapped

/-- An execution is cancelled while it waits, and fails then for a reason that reads so. -/
theorem distinguishes_iff_cancelled :
    let returned : Returned := .handler (.error (.failed "cancelled"))
    Course (.settled .cancelled) true (.finished returned) ∧
      Distinguishes .cancelled true returned := by
  intro returned
  let failing : HandlerCode := fun _ => .untilOpen "pull" (.done (.error (.failed "cancelled")))
  let around : Surroundings := ⟨.empty, [], ⟨0, 0⟩⟩
  let opened : Surroundings := ⟨.empty, ["pull"], ⟨0, 0⟩⟩
  let parked : Engine :=
    ⟨(pulling failing).registry, ((Executions.empty 2).begin ⟨7⟩ (.forDomain .git "pull")).1⟩
  let cancelled : Engine := { parked with executions := (parked.executions.cancel ⟨7⟩).1 }
  have begun : (pulling failing).execute around ⟨7⟩ (.forDomain .git "pull") =
      (parked, .waiting 0 (.untilOpen "pull" (.done returned.outcome))) := by
    rw [execute_eq, ofCommand_pulling]
    rfl
  have waits := Course.pulling failing around rfl rfl
  rw [begun] at waits
  have underWay : cancelled.executions.flight? 0 =
      some ⟨0, ⟨7⟩, .forDomain .git "pull", true⟩ := rfl
  have settles := Course.resumed waits cancelled opened underWay rfl
  simp only [resume, underWay] at settles
  have settled : Course (.settled .cancelled) true (.finished returned) := settles
  obtain ⟨_, isReturned, promised⟩ := distinguishes_iff settled
  cases isReturned
  exact ⟨settled, (promised nofun).2 fun misread => nomatch misread.uncancelled⟩

/-- A handler that was not cancelled fails, with a reason that reads as if it was. -/
theorem not_distinguishes_failed :
    ¬ ∀ (reply : Reply) (cancelled : Bool) (returned : Returned),
      Course (.settled reply) cancelled (.finished returned) →
        (∀ output, returned.output? = some output → ¬ output.ReadyMade) →
          Distinguishes reply cancelled returned := by
  intro distinguishes
  let failing : HandlerCode := fun _ => .done (.error (.failed "cancelled"))
  let around : Surroundings := ⟨.empty, [], ⟨0, 0⟩⟩
  have course : Course (.settled (.failure "cancelled")) false
      (.finished (.handler (.error (.failed "cancelled")))) := by
    have settles := Course.pulling failing around rfl rfl
    rw [execute_eq, ofCommand_pulling] at settles
    exact settles
  have reports : (Reply.failure "cancelled").isCancelled = true := rfl
  rcases (distinguishes _ _ _ course nofun).1 reports with cancelled | returnedSo
  · cases cancelled
  · cases returnedSo

end Engine

end ChatOps
