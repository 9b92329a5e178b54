import ChatOps.Assistant
import ChatOps.Proofs.Execution.Log
import ChatOps.Proofs.Plugin.Store
import ChatOps.Proofs.Preferences

/-!
# Conversations

Texts are given to an assistant one after another, and each call returns before the next
one.  While it has not returned it may wait, be cancelled, and go on in other surroundings;
the registry and the context may change at any time.  The history is then the end of the
list of all commands that were parsed, each with the reply that was returned, and the
preferred arguments are the latest of all calls that have succeeded
(`remembers_of_conversation`).  A text that is no command leaves no trace.
-/

set_option autoImplicit false

namespace ChatOps

/-! ## One execution at a time -/

namespace Executions

/-- Whether nothing else is under way or pending than perhaps this execution. -/
structure Alone (executions : Executions) (current : Option Launch) : Prop where
  flights : executions.flights.map Flight.launch = current.toList
  pending : ∀ id, executions.isPending id = true → ∃ launch ∈ current, launch.id = id

variable {executions : Executions} {current : Option Launch}

theorem isPending_eq (executions : Executions) (id : ExecutionId) :
    executions.isPending id = (executions.pending.get? id).isSome := rfl

theorem alone_empty (capacity : Nat) : (empty capacity).Alone none where
  flights := rfl
  pending := fun _ pending => by cases pending

theorem Alone.begin (alone : executions.Alone none) (id : ExecutionId) (command : Command) :
    (executions.begin id command).1.Alone (some ⟨executions.started, id, command⟩) where
  flights := by
    simp only [Executions.begin, List.map_append, alone.flights]
    rfl
  pending := by
    intro other isPending
    refine ⟨_, rfl, ?_⟩
    by_contra different
    rw [isPending_eq, Executions.begin, SortedMap.get?_insert, if_neg different] at isPending
    obtain ⟨launch, nothing, _⟩ := alone.pending other isPending
    cases nothing

theorem Alone.fire (alone : executions.Alone current) (serials : List Nat) :
    (executions.fire serials).Alone current where
  flights := by
    rw [← alone.flights, Executions.fire, List.map_map]
    apply List.map_congr_left
    intro flight _
    simp only [Function.comp_apply]
    split <;> rfl
  pending := alone.pending

theorem Alone.erase (alone : executions.Alone current) (id : ExecutionId) :
    { executions with pending := executions.pending.erase id }.Alone current where
  flights := alone.flights
  pending := by
    intro other isPending
    rw [isPending_eq, SortedMap.get?_erase] at isPending
    split at isPending
    · cases isPending
    · exact alone.pending other isPending

theorem Alone.cancel (alone : executions.Alone current) (id : ExecutionId) :
    (executions.cancel id).1.Alone current := by
  rw [Executions.cancel]
  cases executions.pending.get? id with
  | none => exact alone
  | some serial => exact (alone.erase id).fire [serial]

theorem Alone.cancelAll (alone : executions.Alone current) :
    executions.cancelAll.1.Alone current := by
  have emptied : { executions with pending := .empty }.Alone current :=
    ⟨alone.flights, fun _ isPending => by cases isPending⟩
  exact emptied.fire _

theorem Alone.settle {flight : Flight} (alone : executions.Alone (some flight.launch))
    (produced : Reply) (now : Instant) :
    (executions.settle flight produced now).1.Alone none where
  flights := by
    simp only [Executions.settle, Option.toList_none, List.map_eq_nil_iff, List.filter_eq_nil_iff]
    intro other member
    have same : other.launch ∈ executions.flights.map Flight.launch := List.mem_map_of_mem member
    rw [alone.flights] at same
    have sameSerial := congrArg Launch.serial (List.mem_singleton.1 same)
    simpa [Flight.launch] using sameSerial
  pending := by
    intro id isPending
    rw [isPending_eq, Executions.settle, SortedMap.get?_erase] at isPending
    split at isPending
    · cases isPending
    · next different =>
        obtain ⟨launch, isThis, same⟩ := alone.pending id isPending
        cases isThis
        exact absurd same different

/-- An execution that is alone is found by its serial number. -/
theorem Alone.flight? {launch : Launch} (alone : executions.Alone (some launch)) :
    ∃ flight, executions.flight? launch.serial = some flight ∧ flight.launch = launch := by
  obtain ⟨flight, single, same⟩ := List.map_eq_singleton_iff.1 alone.flights
  refine ⟨flight, ?_, same⟩
  rw [Executions.flight?, single, ← same]
  simp [Flight.launch]

end Executions

/-- What becomes of an execution that runs alone: it goes into the history with its reply,
or it waits. -/
inductive Goes (before : History) (launch : Launch) : Executions → Stage → Prop where
  | settled {after : Executions} (record : ExecutionRecord) (id : record.id = launch.id)
      (command : record.command = launch.command) (alone : after.Alone none)
      (history : after.history = before.push record) :
      Goes before launch after (.settled record.reply)
  | waiting {after : Executions} (rest : Routine Dispatch.Outcome)
      (alone : after.Alone (some launch)) (history : after.history = before) :
      Goes before launch after (.waiting launch.serial rest)

namespace Engine

variable {engine : Engine}

theorem goes_advance {flight : Flight} (alone : engine.executions.Alone (some flight.launch))
    (around : Surroundings) (routine : Routine Dispatch.Outcome) :
    Goes engine.executions.history flight.launch (engine.advance around flight routine).1.executions
      (engine.advance around flight routine).2 := by
  rw [advance]
  generalize routine.advance around.openGates.contains flight.cancelled = result
  obtain ⟨cancelled, progress⟩ := result
  cases progress with
  | finished outcome =>
      have current : engine.executions.Alone
          (some { flight with cancelled := cancelled }.launch) := alone
      exact .settled ⟨flight.id, flight.command, _, around.now, .none⟩ rfl rfl
        (current.settle _ around.now) rfl
  | waiting rest =>
      refine .waiting rest ?_ ?_
      · simp only [park]
        split
        · exact alone.fire _
        · exact alone
      · simp only [park]
        split <;> rfl

theorem goes_execute (alone : engine.executions.Alone none) (around : Surroundings)
    (id : ExecutionId) (command : Command) :
    Goes engine.executions.history ⟨engine.executions.started, id, command⟩
      (engine.execute around id command).1.executions (engine.execute around id command).2 := by
  have begun := alone.begin id command
  rw [execute]
  generalize Dispatch.ofCommand engine.registry.tables around.store command = todo
  have here : (⟨(todo.start engine.registry).1, (engine.executions.begin id command).1⟩ :
      Engine).executions.Alone (some (engine.executions.begin id command).2.launch) := begun
  exact goes_advance here around (todo.start engine.registry).2

theorem goes_resume {launch : Launch} (alone : engine.executions.Alone (some launch))
    (around : Surroundings) (routine : Routine Dispatch.Outcome) :
    Goes engine.executions.history launch (engine.resume around launch.serial routine).1.executions
      (engine.resume around launch.serial routine).2 := by
  obtain ⟨flight, found, rfl⟩ := alone.flight?
  rw [resume, found]
  exact goes_advance alone around routine

end Engine

/-! ## Calls -/

/-- A call that has returned: the text that was given, and the reply. -/
structure Call where
  text : String
  reply : Reply

namespace Call

/-- The command that was parsed and executed, with the reply that was returned. -/
def executed? (call : Call) : Option (Command × Reply) :=
  match Command.parse call.text with
  | .ok command => some (command, call.reply)
  | .error _ => none

/-- What there is to learn from a call: the arguments of an addressed command that has
succeeded. -/
def recording? (call : Call) : Option Preferences.Recording :=
  match Command.parse call.text with
  | .ok command =>
      if call.reply.success = true ∧ command.sigil = .atSign then
        some ⟨command.agent, command.name, command.args⟩
      else none
  | .error _ => none

end Call

/-- A call that has not returned yet: the text that was given, its execution, and what is
left of the handler. -/
structure OpenCall where
  text : String
  launch : Launch
  rest : Routine Dispatch.Outcome

namespace Assistant

def withExecutions (assistant : Assistant) (executions : Executions) : Assistant :=
  { assistant with engine := { assistant.engine with executions := executions } }

/-- The course of a conversation: the assistant, the call that has not returned if there is
one, and those that have.  A call returns at once, or it waits and returns when it is gone
on with.  While it waits and between calls, executions may be cancelled by any identifier or
all at once, and the registry and all that has to do with the context may change. -/
inductive Conversation (settings : Settings) :
    Assistant → Option OpenCall → List Call → Prop where
  | started (store : PluginStore) : Conversation settings (create settings store) none []
  | returned {assistant : Assistant} {calls : List Call}
      (before : Conversation settings assistant none calls) (around : Surroundings)
      (id : ExecutionId) (text : String) {reply : Reply}
      (returns : (assistant.execute around id text).2 = some reply) :
      Conversation settings (assistant.execute around id text).1 none (calls ++ [⟨text, reply⟩])
  | opened {assistant : Assistant} {calls : List Call}
      (before : Conversation settings assistant none calls) (around : Surroundings)
      (id : ExecutionId) (text : String) {command : Command} {serial : Nat}
      {rest : Routine Dispatch.Outcome} (parses : Command.parse text = .ok command)
      (waits : (assistant.engine.execute around id command).2 = .waiting serial rest) :
      Conversation settings (assistant.execute around id text).1
        (some ⟨text, ⟨serial, id, command⟩, rest⟩) calls
  | resumed {assistant : Assistant} {call : OpenCall} {calls : List Call}
      (before : Conversation settings assistant (some call) calls) (around : Surroundings)
      {engine : Engine} {serial : Nat} {rest : Routine Dispatch.Outcome}
      (waits : assistant.engine.resume around call.launch.serial call.rest =
        (engine, .waiting serial rest)) :
      Conversation settings { assistant with engine := engine }
        (some { call with rest := rest }) calls
  | settled {assistant : Assistant} {call : OpenCall} {calls : List Call}
      (before : Conversation settings assistant (some call) calls) (around : Surroundings)
      {engine : Engine} {reply : Reply}
      (settles : assistant.engine.resume around call.launch.serial call.rest =
        (engine, .settled reply)) :
      Conversation settings ({ assistant with engine := engine }.learn call.launch.command reply)
        none (calls ++ [⟨call.text, reply⟩])
  | cancelled {assistant : Assistant} {current : Option OpenCall} {calls : List Call}
      (before : Conversation settings assistant current calls) (id : ExecutionId) :
      Conversation settings
        (assistant.withExecutions (assistant.engine.executions.cancel id).1) current calls
  | cancelledAll {assistant : Assistant} {current : Option OpenCall} {calls : List Call}
      (before : Conversation settings assistant current calls) :
      Conversation settings
        (assistant.withExecutions assistant.engine.executions.cancelAll.1) current calls
  | reconfigured {assistant : Assistant} {current : Option OpenCall} {calls : List Call}
      (before : Conversation settings assistant current calls) (registry : Registry) :
      Conversation settings
        { assistant with engine := { assistant.engine with registry := registry } }
        current calls
  | informed {assistant : Assistant} {current : Option OpenCall} {calls : List Call}
      (before : Conversation settings assistant current calls) (context : Context)
      (remembered : Option RememberedKey) (feed : Feed (List Integration)) :
      Conversation settings
        { assistant with context := context, remembered := remembered, feed := feed }
        current calls

/-! ## What is kept -/

/-- What a record tells of an execution besides its identifier and times. -/
def told (record : ExecutionRecord) : Command × Reply := (record.command, record.reply)

/-- Whether an assistant has kept what there is to keep of calls. -/
structure Keeps (settings : Settings) (assistant : Assistant) (calls : List Call) : Prop where
  limit : assistant.engine.executions.history.capacity = settings.historyCapacity
  history : assistant.engine.executions.history.records.map told =
    newest settings.historyCapacity (calls.filterMap Call.executed?)
  preferences : assistant.preferences =
    (Preferences.empty settings.preferenceCapacity).recordAll (calls.filterMap Call.recording?)

variable {settings : Settings} {assistant : Assistant} {current : Option OpenCall}
  {calls : List Call}

theorem keeps_create (store : PluginStore) : Keeps settings (create settings store) [] where
  limit := rfl
  history := by simp [create, Executions.empty, History.empty, newest]
  preferences := rfl

/-- What changes neither the history nor the preferences leaves everything kept. -/
theorem Keeps.of_same {after : Assistant} (keeps : Keeps settings assistant calls)
    (history : after.engine.executions.history = assistant.engine.executions.history)
    (preferences : after.preferences = assistant.preferences) :
    Keeps settings after calls where
  limit := by rw [history, keeps.limit]
  history := by rw [history, keeps.history]
  preferences := by rw [preferences, keeps.preferences]

/-- A call that is rejected leaves nothing to keep. -/
theorem Keeps.rejected (keeps : Keeps settings assistant calls) {text : String}
    {reason : Rejection} (rejects : Command.parse text = .error reason) (reply : Reply) :
    Keeps settings assistant (calls ++ [⟨text, reply⟩]) where
  limit := keeps.limit
  history := by
    rw [List.filterMap_append]
    simpa [Call.executed?, rejects] using keeps.history
  preferences := by
    rw [List.filterMap_append]
    simpa [Call.recording?, rejects] using keeps.preferences

theorem map_newest {Item Other : Type} (change : Item → Other) (most : Nat)
    (items : List Item) : (newest most items).map change = newest most (items.map change) := by
  rw [newest, newest, List.map_drop, List.length_map]

theorem preferences_learn (assistant : Assistant) (command : Command) (reply : Reply) :
    (assistant.learn command reply).preferences =
      if reply.success = true ∧ command.sigil = .atSign then
        assistant.preferences.record command.agent command.name command.args
      else assistant.preferences := by
  rw [learn]
  simp only [Bool.and_eq_true, beq_iff_eq]
  split <;> rfl

theorem engine_learn (assistant : Assistant) (command : Command) (reply : Reply) :
    (assistant.learn command reply).engine = assistant.engine := by
  rw [learn]
  split <;> rfl

/-- A call that returns after its execution has settled is kept. -/
theorem Keeps.learn (keeps : Keeps settings assistant calls) {text : String}
    {command : Command} (parses : Command.parse text = .ok command) {engine : Engine}
    {record : ExecutionRecord} (isCommand : record.command = command)
    (history : engine.executions.history = assistant.engine.executions.history.push record) :
    Keeps settings ({ assistant with engine := engine }.learn command record.reply)
      (calls ++ [⟨text, record.reply⟩]) := by
  constructor
  case limit =>
    rw [engine_learn, history]
    exact keeps.limit
  case history =>
    have executed : Call.executed? ⟨text, record.reply⟩ = some (told record) := by
      rw [Call.executed?, parses, ← isCommand]
      rfl
    rw [engine_learn, history, History.records_push, keeps.limit, map_newest, List.map_append,
      keeps.history, newest_newest_append, List.filterMap_append]
    simp [executed]
  case preferences =>
    rw [preferences_learn, keeps.preferences, List.filterMap_append]
    by_cases teaches : record.reply.success = true ∧ command.sigil = .atSign
    · have recording : Call.recording? ⟨text, record.reply⟩ =
          some ⟨command.agent, command.name, command.args⟩ := by
        rw [Call.recording?, parses]
        exact if_pos teaches
      simp [if_pos teaches, recording, Preferences.recordAll_concat]
    · have recording : Call.recording? ⟨text, record.reply⟩ = none := by
        rw [Call.recording?, parses]
        exact if_neg teaches
      simp [if_neg teaches, recording]

/-! ## One call at a time -/

/-- Whether the engine is busy with the call that has not returned, and with nothing else. -/
structure Busy (assistant : Assistant) (current : Option OpenCall) : Prop where
  alone : assistant.engine.executions.Alone (current.map OpenCall.launch)
  parses : ∀ call ∈ current, Command.parse call.text = .ok call.launch.command

theorem execute_of_rejected {text : String} {reason : Rejection}
    (rejects : Command.parse text = .error reason) (around : Surroundings) (id : ExecutionId) :
    assistant.execute around id text = (assistant, some (rejectedReply text reason)) := by
  simp only [execute, rejects]

theorem execute_of_settled {text : String} {command : Command} {around : Surroundings}
    {id : ExecutionId} {reply : Reply} (parses : Command.parse text = .ok command)
    (settles : (assistant.engine.execute around id command).2 = .settled reply) :
    assistant.execute around id text =
      ({ assistant with engine := (assistant.engine.execute around id command).1 }.learn
        command reply, some reply) := by
  simp only [execute, parses, settles]

theorem execute_of_waiting {text : String} {command : Command} {around : Surroundings}
    {id : ExecutionId} {serial : Nat} {rest : Routine Dispatch.Outcome}
    (parses : Command.parse text = .ok command)
    (waits : (assistant.engine.execute around id command).2 = .waiting serial rest) :
    assistant.execute around id text =
      ({ assistant with engine := (assistant.engine.execute around id command).1 }, none) := by
  simp only [execute, parses, waits]

/-- Whatever text is given between calls, the conversation goes on with it. -/
theorem Conversation.called (before : Conversation settings assistant none calls)
    (around : Surroundings) (id : ExecutionId) (text : String) :
    (∃ reply, (assistant.execute around id text).2 = some reply ∧
      Conversation settings (assistant.execute around id text).1 none
        (calls ++ [⟨text, reply⟩])) ∨
      ∃ call, call.text = text ∧
        Conversation settings (assistant.execute around id text).1 (some call) calls := by
  cases returned : (assistant.execute around id text).2 with
  | some reply => exact .inl ⟨reply, rfl, .returned before around id text returned⟩
  | none =>
      cases parses : Command.parse text with
      | error reason =>
          rw [execute_of_rejected parses] at returned
          cases returned
      | ok command =>
          cases stage : (assistant.engine.execute around id command).2 with
          | settled reply =>
              rw [execute_of_settled parses stage] at returned
              cases returned
          | waiting serial rest =>
              exact .inr ⟨_, rfl, .opened before around id text parses stage⟩

/-- A call that returns at once leaves nothing behind but what is kept of it. -/
theorem keeps_execute (busy : Busy assistant none) (keeps : Keeps settings assistant calls)
    {around : Surroundings} {id : ExecutionId} {text : String} {reply : Reply}
    (returns : (assistant.execute around id text).2 = some reply) :
    Busy (assistant.execute around id text).1 none ∧
      Keeps settings (assistant.execute around id text).1 (calls ++ [⟨text, reply⟩]) := by
  cases parses : Command.parse text with
  | error reason =>
      rw [execute_of_rejected parses]
      exact ⟨busy, keeps.rejected parses reply⟩
  | ok command =>
      have goes := Engine.goes_execute busy.alone around id command
      cases stage : (assistant.engine.execute around id command).2 with
      | waiting serial rest =>
          rw [execute_of_waiting parses stage] at returns
          cases returns
      | settled reply' =>
          rw [execute_of_settled parses stage] at returns ⊢
          cases returns
          rw [stage] at goes
          cases goes with
          | settled record sameId sameCommand alone history =>
              refine ⟨⟨?_, by simp⟩, keeps.learn parses sameCommand history⟩
              rw [engine_learn]
              exact alone

/-- A call that waits keeps the engine busy, and nothing is kept of it yet. -/
theorem keeps_open (busy : Busy assistant none) (keeps : Keeps settings assistant calls)
    {around : Surroundings} {id : ExecutionId} {text : String} {command : Command}
    {serial : Nat} {rest : Routine Dispatch.Outcome} (parses : Command.parse text = .ok command)
    (waits : (assistant.engine.execute around id command).2 = .waiting serial rest) :
    Busy (assistant.execute around id text).1 (some ⟨text, ⟨serial, id, command⟩, rest⟩) ∧
      Keeps settings (assistant.execute around id text).1 calls := by
  have goes := Engine.goes_execute busy.alone around id command
  rw [waits] at goes
  rw [execute_of_waiting parses waits]
  cases goes with
  | waiting rest alone history =>
      refine ⟨⟨alone, ?_⟩, keeps.of_same history rfl⟩
      rintro _ ⟨⟩
      exact parses

theorem keeps_resume {call : OpenCall} (busy : Busy assistant (some call))
    (keeps : Keeps settings assistant calls) {around : Surroundings} {engine : Engine}
    {serial : Nat} {rest : Routine Dispatch.Outcome}
    (waits : assistant.engine.resume around call.launch.serial call.rest =
      (engine, .waiting serial rest)) :
    Busy { assistant with engine := engine } (some { call with rest := rest }) ∧
      Keeps settings { assistant with engine := engine } calls := by
  have goes := Engine.goes_resume busy.alone around call.rest
  rw [waits] at goes
  cases goes with
  | waiting rest alone history =>
      refine ⟨⟨alone, ?_⟩, keeps.of_same history rfl⟩
      rintro _ ⟨⟩
      exact busy.parses call rfl

theorem keeps_settle {call : OpenCall} (busy : Busy assistant (some call))
    (keeps : Keeps settings assistant calls) {around : Surroundings} {engine : Engine}
    {reply : Reply}
    (settles : assistant.engine.resume around call.launch.serial call.rest =
      (engine, .settled reply)) :
    Busy ({ assistant with engine := engine }.learn call.launch.command reply) none ∧
      Keeps settings ({ assistant with engine := engine }.learn call.launch.command reply)
        (calls ++ [⟨call.text, reply⟩]) := by
  have goes := Engine.goes_resume busy.alone around call.rest
  rw [settles] at goes
  cases goes with
  | settled record sameId sameCommand alone history =>
      refine ⟨⟨?_, by simp⟩, keeps.learn (busy.parses call rfl) sameCommand history⟩
      rw [engine_learn]
      exact alone

/-! ## The whole conversation -/

theorem keeps_of_conversation (conversation : Conversation settings assistant current calls) :
    Busy assistant current ∧ Keeps settings assistant calls := by
  -- That nothing else is under way carries the induction: it makes sure that the execution
  -- that settles is the one of the open call.
  induction conversation with
  | started store =>
      exact ⟨⟨Executions.alone_empty settings.historyCapacity, by simp⟩, keeps_create store⟩
  | returned before around id text returns inductionHypothesis =>
      exact keeps_execute inductionHypothesis.1 inductionHypothesis.2 returns
  | opened before around id text parses waits inductionHypothesis =>
      exact keeps_open inductionHypothesis.1 inductionHypothesis.2 parses waits
  | resumed before around waits inductionHypothesis =>
      exact keeps_resume inductionHypothesis.1 inductionHypothesis.2 waits
  | settled before around settles inductionHypothesis =>
      exact keeps_settle inductionHypothesis.1 inductionHypothesis.2 settles
  | @cancelled assistant _ _ before id inductionHypothesis =>
      obtain ⟨busy, keeps⟩ := inductionHypothesis
      have history : (assistant.engine.executions.cancel id).1.history =
          assistant.engine.executions.history := by
        rw [Executions.cancel]
        split <;> rfl
      exact ⟨⟨busy.alone.cancel id, busy.parses⟩, keeps.of_same history rfl⟩
  | cancelledAll before inductionHypothesis =>
      obtain ⟨busy, keeps⟩ := inductionHypothesis
      exact ⟨⟨busy.alone.cancelAll, busy.parses⟩, keeps.of_same rfl rfl⟩
  | reconfigured before registry inductionHypothesis =>
      obtain ⟨busy, keeps⟩ := inductionHypothesis
      exact ⟨⟨busy.alone, busy.parses⟩, keeps.of_same rfl rfl⟩
  | informed before context remembered feed inductionHypothesis =>
      obtain ⟨busy, keeps⟩ := inductionHypothesis
      exact ⟨⟨busy.alone, busy.parses⟩, keeps.of_same rfl rfl⟩

/-- What is promised of an assistant in a conversation.  A text that is no command changes
nothing and is answered with a failure and suggestions.  The history is the end of the list
of all commands that were parsed, with the replies that were returned.  The preferred
arguments of a command are the latest lists of calls of it that have succeeded, the latest
first and no list twice, up to the capacity.  Between calls nothing is pending, and the
conversation goes on with whatever text is given. -/
structure Remembers (settings : Settings) (assistant : Assistant) (current : Option OpenCall)
    (calls : List Call) : Prop where
  rejected : ∀ around id text reason, Command.parse text = .error reason →
    ∃ reply, assistant.execute around id text = (assistant, some reply) ∧
      reply.success = false ∧ reply.suggestions ≠ []
  history : assistant.engine.executions.history.records.map told =
    newest settings.historyCapacity (calls.filterMap Call.executed?)
  preferred : ∀ plugin name, assistant.preferences.recent plugin name =
    (Preferences.latest plugin name (calls.filterMap Call.recording?)).take
      settings.preferenceCapacity
  idle : current = none → ∀ id, assistant.engine.executions.isPending id = false
  goesOn : current = none → ∀ around id text,
    (∃ reply, (assistant.execute around id text).2 = some reply ∧
      Conversation settings (assistant.execute around id text).1 none
        (calls ++ [⟨text, reply⟩])) ∨
      ∃ call, call.text = text ∧
        Conversation settings (assistant.execute around id text).1 (some call) calls

theorem remembers_of_conversation
    (conversation : Conversation settings assistant current calls) :
    Remembers settings assistant current calls := by
  obtain ⟨busy, keeps⟩ := keeps_of_conversation conversation
  constructor
  case rejected =>
    intro around id text reason rejects
    refine ⟨rejectedReply text reason, execute_of_rejected rejects around id, rfl, ?_⟩
    simp only [rejectedReply, Reply.ofRejection]
    split
    · decide
    · next some =>
        intro none
        rw [none] at some
        exact some rfl
  case history => exact keeps.history
  case preferred =>
    intro plugin name
    rw [keeps.preferences]
    exact Preferences.recent_recordAll ..
  case idle =>
    rintro rfl id
    cases isPending : assistant.engine.executions.isPending id with
    | false => rfl
    | true =>
        obtain ⟨_, nothing, _⟩ := busy.alone.pending id isPending
        cases nothing
  case goesOn =>
    rintro rfl
    exact conversation.called

/-- A plugin that greets whom it is told to. -/
def greeter : Plugin :=
  .plain "Robot" [⟨"greet", "", none, [], [], none⟩] fun _ => .done (.ok .empty)

/-- A text that is no command, and two commands that succeed with the same argument.  The
history has room for one of them. -/
theorem remembers_of_conversation_greetings :
    let settings := { Settings.standard with historyCapacity := 1 }
    let around : Surroundings := ⟨.ofList [greeter], [], ⟨0, 0⟩⟩
    let first := (create settings around.store).execute around ⟨1⟩ "hello"
    let second := first.1.execute around ⟨2⟩ "@robot:greet you"
    let third := second.1.execute around ⟨3⟩ "@ROBOT:greet 'you'"
    (∃ calls, calls.map Call.text = ["hello", "@robot:greet you", "@ROBOT:greet 'you'"] ∧
      Conversation settings third.1 none calls ∧ Remembers settings third.1 none calls) ∧
      third.1.engine.executions.history.records.map (fun record => record.command.raw) =
        ["@ROBOT:greet 'you'"] ∧
      (third.1.preferences.recent "robot" "greet").map (fun args => args.map Json.asString?) =
        [[some "you"]] := by
  intro settings around first second third
  refine ⟨?_, by decide +kernel, by decide +kernel⟩
  obtain ⟨rejection, firstReturns⟩ :=
    Option.isSome_iff_exists.1 (by decide +kernel : first.2.isSome = true)
  obtain ⟨reply, secondReturns⟩ :=
    Option.isSome_iff_exists.1 (by decide +kernel : second.2.isSome = true)
  obtain ⟨again, thirdReturns⟩ :=
    Option.isSome_iff_exists.1 (by decide +kernel : third.2.isSome = true)
  have started : Conversation settings (create settings around.store) none [] :=
    .started around.store
  have conversation := ((started.returned around _ _ firstReturns).returned around _ _
    secondReturns).returned around _ _ thirdReturns
  exact ⟨_, rfl, conversation, remembers_of_conversation conversation⟩

end Assistant

end ChatOps
