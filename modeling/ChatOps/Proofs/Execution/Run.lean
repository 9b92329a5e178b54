import ChatOps.Engine
import ChatOps.Proofs.Execution.Account

/-!
# Runs of the engine

Executions begin and go on, and are cancelled one by one or all at once, in any order.
Whatever that order is, the account of executions says at every point what the log
says.  The handlers are arbitrary: an execution may go on with any routine.
-/

set_option autoImplicit false

namespace ChatOps

/-- A flag that has been raised stays raised. -/
theorem Routine.advance_cancelled {Result : Type} (isOpen : String → Bool)
    (routine : Routine Result) : (routine.advance isOpen true).1 = true := by
  induction routine with
  | finish result => rfl
  | untilCancelled rest inductionHypothesis => exact inductionHypothesis
  | untilOpen gate rest inductionHypothesis =>
      rw [advance]
      split
      · exact inductionHypothesis
      · rfl
  | cancelSelf rest inductionHypothesis => exact inductionHypothesis

/-- What there is to see of how far an execution has come. -/
def Stage.happenings (serial : Nat) : Stage → List Happening
  | .settled reply => [.settled serial reply]
  | .waiting _ _ => []

namespace Engine

/-- What can be done to an engine between two points where executions wait.  An
execution goes on with whatever is left of its handler, and the registry may change. -/
inductive Action where
  | start (around : Surroundings) (id : ExecutionId) (command : Command)
  | resume (around : Surroundings) (serial : Nat) (routine : Routine Dispatch.Outcome)
  | cancel (id : ExecutionId)
  | cancelAll
  | reconfigure (registry : Registry)

/-- No execution is begun under an identifier that is in flight. -/
def Action.Admissible (log : Log) : Action → Prop
  | .start _ id _ => ∀ launch : Launch, launch.id = id → ¬ log.InFlight launch
  | _ => True

def act (engine : Engine) : Action → Engine × List Happening
  | .start around id command =>
      let serial := engine.executions.started
      let (after, stage) := engine.execute around id command
      (after, .began ⟨serial, id, command⟩ :: stage.happenings serial)
  | .resume around serial routine =>
      let (after, stage) := engine.resume around serial routine
      (after, stage.happenings serial)
  | .cancel id =>
      let (executions, found) := engine.executions.cancel id
      ({ engine with executions := executions }, [.cancelled id found])
  | .cancelAll =>
      let (executions, count) := engine.executions.cancelAll
      ({ engine with executions := executions }, [.cancelledAll count])
  | .reconfigure registry => ({ engine with registry := registry }, [])

/-- The engines that come out of a new one, each with the log of how. -/
inductive Reachable (capacity : Nat) : Engine → Log → Prop where
  | fresh (registry : Registry) : Reachable capacity ⟨registry, .empty capacity⟩ []
  | after {engine : Engine} {log : Log} (action : Action)
      (before : Reachable capacity engine log) (admissible : action.Admissible log) :
      Reachable capacity (engine.act action).1 (log ++ (engine.act action).2)

/-! ## One step -/

variable {capacity : Nat} {engine : Engine} {log : Log}

theorem accounts_advance (accounts : Accounts capacity engine.executions log)
    (around : Surroundings) (flight : Flight) (member : flight ∈ engine.executions.flights)
    (routine : Routine Dispatch.Outcome) :
    Accounts capacity (engine.advance around flight routine).1.executions
      (log ++ (engine.advance around flight routine).2.happenings flight.serial) := by
  have inFlight := accounts.inFlight_launch member
  have fired : log.Cancelled flight.launch →
      (routine.advance around.openGates.contains flight.cancelled).1 = true := by
    intro wasCancelled
    rw [accounts.fired flight member wasCancelled]
    exact routine.advance_cancelled _
  rw [advance]
  generalize routine.advance around.openGates.contains flight.cancelled = result at fired
  obtain ⟨cancelled, progress⟩ := result
  cases progress with
  | finished outcome =>
      exact accounts.settle { flight with cancelled := cancelled } inFlight fired _ around.now
  | waiting rest =>
      simp only [Stage.happenings, List.append_nil, park]
      split
      · exact accounts.fire [flight.serial]
      · exact accounts

theorem accounts_execute (accounts : Accounts capacity engine.executions log)
    (around : Surroundings) (id : ExecutionId) (command : Command)
    (fresh : ∀ launch : Launch, launch.id = id → ¬ log.InFlight launch) :
    Accounts capacity (engine.execute around id command).1.executions
      (log ++ .began ⟨engine.executions.started, id, command⟩ ::
        (engine.execute around id command).2.happenings engine.executions.started) := by
  have begun := accounts.begin id command fresh
  rw [List.append_cons]
  exact accounts_advance begun around ⟨engine.executions.started, id, command, false⟩
    (List.mem_append_right _ (List.mem_singleton.2 rfl)) _

theorem accounts_resume (accounts : Accounts capacity engine.executions log)
    (around : Surroundings) (serial : Nat) (routine : Routine Dispatch.Outcome) :
    Accounts capacity (engine.resume around serial routine).1.executions
      (log ++ (engine.resume around serial routine).2.happenings serial) := by
  rw [resume]
  cases found : engine.executions.flight? serial with
  | none =>
      simp only [Stage.happenings, List.append_nil]
      exact accounts
  | some flight =>
      have member : flight ∈ engine.executions.flights := List.mem_of_find?_eq_some found
      have same : flight.serial = serial := by simpa using List.find?_some found
      rw [← same]
      exact accounts_advance accounts around flight member routine

theorem accounts_act (accounts : Accounts capacity engine.executions log) (action : Action)
    (admissible : action.Admissible log) :
    Accounts capacity (engine.act action).1.executions (log ++ (engine.act action).2) := by
  cases action with
  | start around id command => exact accounts_execute accounts around id command admissible
  | resume around serial routine => exact accounts_resume accounts around serial routine
  | cancel id => exact accounts.cancel id
  | cancelAll => exact accounts.cancelAll
  | reconfigure registry =>
      rw [act, List.append_nil]
      exact accounts

/-! ## Every run -/

theorem Reachable.accounts (reachable : Reachable capacity engine log) :
    Accounts capacity engine.executions log := by
  induction reachable with
  | fresh registry => exact .empty capacity
  | after action before admissible inductionHypothesis =>
      exact accounts_act inductionHypothesis action admissible

/-- What is promised of the account of executions after a run: what is pending and what
cancellations answer, what a cancelled execution returns, and what the history keeps. -/
structure KeepsAccount (capacity : Nat) (executions : Executions) (log : Log) : Prop where
  pending : ∀ id, executions.isPending id = true ↔ log.Pending id
  found : ∀ id, (executions.cancel id).2 = true ↔ log.Pending id
  counted : ∃ ids : List ExecutionId, ids.Nodup ∧ (∀ id, id ∈ ids ↔ log.Pending id) ∧
    executions.cancelAll.2 = ids.length
  emptied : ∀ id, executions.cancelAll.1.isPending id = false
  cancelled : ∀ (launch : Launch) (happening : Happening) (reply : Reply),
    happening.Cancels launch.id →
      [.began launch, happening, .settled launch.serial reply].Sublist log →
        reply = .cancelled
  once : (log.settlements.map Prod.fst).Nodup
  recorded : ∃ records, List.Forall₂ log.IsRecorded log.settlements records ∧
    executions.history.records = newest capacity records

/-- The account is kept in every order of beginnings, endings and cancellations. -/
theorem keepsAccount_of_reachable (reachable : Reachable capacity engine log) :
    KeepsAccount capacity engine.executions log where
  pending := reachable.accounts.isPending_iff
  found := reachable.accounts.found_iff
  counted := reachable.accounts.count_cancelAll
  emptied := fun id => by simp [Executions.isPending, Executions.cancelAll, Executions.fire,
    SortedMap.contains]
  cancelled := reachable.accounts.replies
  once := reachable.accounts.once
  recorded := reachable.accounts.history

/-- A new engine with a command whose executions wait until they are cancelled. -/
def patient : Engine where
  registry :=
    { tables := Tables.empty.insert (.domain .git) "wait"
        (.custom fun _ => .untilCancelled (.done (.ok .empty))) none
      models := ⟨[], none⟩
      feed := .empty Registry.feedCapacity }
  executions := .empty 1

/-- An execution of that command begins, waits, is cancelled and settles. -/
theorem keepsAccount_patient :
    let around : Surroundings := ⟨.empty, [], ⟨0, 0⟩⟩
    let begun := patient.act (.start around ⟨7⟩ (.forDomain .git "wait"))
    let cancelled := begun.1.act .cancelAll
    let settled := cancelled.1.act (.resume around 0 (.done (.ok .empty)))
    KeepsAccount 1 settled.1.executions ([] ++ begun.2 ++ cancelled.2 ++ settled.2) ∧
      begun.1.executions.isPending ⟨7⟩ = true ∧
      settled.1.executions.history.records.map (fun record => record.reply.isCancelled) =
        [true] := by
  refine ⟨keepsAccount_of_reachable (.after _ (.after _ (.after _ (.fresh _) ?_) trivial)
    trivial), ?_, ?_⟩
  · rintro launch _ ⟨begun, _⟩
    cases begun
  · decide +kernel
  · decide +kernel

end Engine

end ChatOps
