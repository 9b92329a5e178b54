import ChatOps.Script
import ChatOps.Assistant
import ChatOps.Refresher

/-!
# Sessions

An assistant together with its plugins, a clock, a language model and the passing of
time.  What goes on in the background (rebuilds after changes of plugins, waiting
executions, refreshes of the context) happens between the actions of the user, and
time passes only when it is moved forward or while a language model is awaited.
-/

set_option autoImplicit false

namespace ChatOps

/-! ## Language model -/

/-- What a language model does when it is asked. -/
inductive ModelReply where
  | answer (text : String)
  | error (error : ModelError)
  | silence

/-- A reply and how long it takes. -/
structure DelayedReply where
  delay : Nat
  reply : ModelReply

/-- The replies that a language model will give, and the questions asked. -/
structure LanguageModel where
  replies : List DelayedReply
  questions : List String

namespace LanguageModel

/-- The next reply; a model that has none left is unavailable. -/
def next (model : LanguageModel) : DelayedReply :=
  model.replies.head?.getD ⟨0, .error .unavailable⟩

/-- The model after it has been asked. -/
def asked (model : LanguageModel) (question : String) : LanguageModel :=
  ⟨model.replies.tail, model.questions ++ [question]⟩

end LanguageModel

namespace DelayedReply

/-- Whether the reply comes before patience is over. -/
def isTimely (reply : DelayedReply) (patience : Nat) : Bool :=
  match reply.reply with
  | .silence => false
  | _ => decide (reply.delay ≤ patience)

/-- How long is waited for a reply. -/
def wait (reply : DelayedReply) (patience : Nat) : Nat :=
  if reply.isTimely patience then reply.delay else patience

/-- The issue key in a reply that came in time. -/
def issueKey? (reply : DelayedReply) (patience : Nat) : Option String :=
  if reply.isTimely patience then
    match reply.reply with
    | .answer text => IssueKey.ofText? text
    | _ => none
  else none

end DelayedReply

/-! ## State -/

/-- An execution that waits. -/
structure Work where
  serial : Nat
  rest : Routine Dispatch.Outcome

/-- Something to be done in the background that waits for nothing any more. -/
inductive Chore where
  | rebuild
  | poll
  | refresh (serial : Nat)
  | resume (serial : Nat)
  deriving DecidableEq

/-- A named execution. -/
inductive Task where
  | running (serial : Nat)
  | finished (reply : Reply)

/-- The state of a session.  `work` lists executions in the order in which they came
to wait, and `agenda` what can be done, in the order in which it came up. -/
structure Session where
  assistant : Assistant
  store : PluginStore
  watcher : Option (Feed LifecycleEvent)
  fallbackDue : Option Nat
  refreshers : Refreshers
  clock : Instant
  time : Nat
  openGates : List String
  work : List Work
  agenda : List Chore
  tasks : SortedMap String Task
  model : Option LanguageModel
  drawn : Nat

namespace Session

/-- The number of lifecycle events kept for the watcher. -/
def watcherCapacity : Nat := 64

/-- What is given when a session is set up.  A detached session has nothing running in
the background, and not every store of plugins tells about changes. -/
structure Setup where
  settings : Settings
  store : PluginStore
  emitsEvents : Bool
  detached : Bool
  clock : Instant
  model : Option LanguageModel

def around (session : Session) : Surroundings :=
  ⟨session.store, session.openGates, session.clock⟩

def registry (session : Session) : Registry := session.assistant.engine.registry

def executions (session : Session) : Executions := session.assistant.engine.executions

def withEngine (session : Session) (engine : Engine) : Session :=
  { session with assistant := { session.assistant with engine := engine } }

def withRegistry (session : Session) (registry : Registry) : Session :=
  session.withEngine { session.assistant.engine with registry := registry }

def withExecutions (session : Session) (executions : Executions) : Session :=
  session.withEngine { session.assistant.engine with executions := executions }

/-! ## Agenda -/

/-- Put a chore on the agenda, unless it is there already. -/
def plan (session : Session) (chore : Chore) : Session :=
  if session.agenda.contains chore then session
  else { session with agenda := session.agenda ++ [chore] }

/-- Plan the poll if its time has come. -/
def planPoll (session : Session) : Session :=
  match session.fallbackDue with
  | some due => if due ≤ session.time then session.plan .poll else session
  | none => session

/-- Plan to run refreshers of the context. -/
def planRefreshers (session : Session) (serials : List Nat) : Session :=
  serials.foldl (fun planned serial => planned.plan (.refresh serial)) session

/-- Plan to run every refresher whose ticker fires by now. -/
def planRefresh (session : Session) : Session :=
  session.planRefreshers (session.refreshers.due session.time)

/-- Move time forward; what is due by then comes onto the agenda. -/
def advance (session : Session) (duration : Nat) : Session :=
  { session with time := session.time + duration }.planPoll.planRefresh

/-- Plan to run on every waiting execution that can go on. -/
def wake (session : Session) (canGoOn : Work → Bool) : Session :=
  (session.work.filter canGoOn).foldl
    (fun planned work => planned.plan (.resume work.serial)) session

/-- A session that has just been set up. -/
def create (setup : Setup) : Session :=
  let watched := !setup.detached && setup.emitsEvents
  let polled := !setup.detached && !setup.emitsEvents
  { assistant := .create setup.settings setup.store
    store := setup.store
    watcher := if watched then some (.empty watcherCapacity) else none
    fallbackDue := if polled then some setup.settings.fallbackDelay else none
    refreshers := .empty
    clock := setup.clock
    time := 0
    openGates := []
    work := []
    agenda := []
    tasks := .empty
    model := setup.model
    drawn := 0 : Session }.planPoll

/-! ## Background -/

/-- Rebuild the tables from the plugins. -/
def refresh (session : Session) : Session :=
  session.withRegistry (session.registry.refresh session.store)

/-- Repeat something. -/
def times (step : Session → Session) : Nat → Session → Session
  | 0, session => session
  | count + 1, session => times step count (step session)

/-- Rebuild once for each notice of the watcher. -/
def followLifecycle (session : Session) : Session :=
  match session.watcher with
  | some feed =>
      times refresh feed.notices.length { session with watcher := some feed.drained }
  | none => session

/-- Rebuild when the single poll is due that stands in for a watcher. -/
def poll (session : Session) : Session :=
  match session.fallbackDue with
  | some due =>
      if due ≤ session.time then { session with fallbackDue := none }.refresh
      else session
  | none => session

/-- Finish the tasks of an execution that has settled. -/
def finishTasks (session : Session) (serial : Nat) (reply : Reply) : Session :=
  { session with
    tasks := ⟨session.tasks.entries.map fun entry =>
        (entry.1, match entry.2 with
          | .running running =>
              if running = serial then .finished reply else .running running
          | .finished earlier => .finished earlier),
      List.Pairwise.map _ (fun _ _ before => before) session.tasks.sorted⟩ }

/-- Run a waiting execution further. -/
def resume (session : Session) (serial : Nat) : Session :=
  match session.work.find? fun work => work.serial == serial with
  | some work =>
      let others := session.work.filter fun other => other.serial != serial
      let (engine, stage) :=
        session.assistant.engine.resume session.around serial work.rest
      let after := { session with work := others }.withEngine engine
      match stage with
      | .settled reply => after.finishTasks serial reply
      | .waiting _ rest => { after with work := after.work ++ [⟨serial, rest⟩] }
  | none => session

/-- Refresh the context once. -/
def refreshContexts (session : Session) : Session × List Integration :=
  let (assistant, refreshed) :=
    session.assistant.refreshContexts session.store session.clock
  ({ session with assistant := assistant }, refreshed)

/-- Run a refresher: the context is refreshed as often as it fires by now. -/
def tick (session : Session) (serial : Nat) : Session :=
  let (refreshers, firings) := session.refreshers.run serial session.time
  times (fun current => current.refreshContexts.1) firings
    { session with refreshers := refreshers }

/-- Do a chore. -/
def perform (session : Session) : Chore → Session
  | .rebuild => session.followLifecycle
  | .poll => session.poll
  | .refresh serial => session.tick serial
  | .resume serial => session.resume serial

/-- Do all that can be done in the background without moving time.  No chore brings up
another one. -/
def background (session : Session) : Session :=
  session.agenda.foldl perform { session with agenda := [] }

/-- Let time pass while something is awaited.  Meanwhile everything else goes on, but
what is due at the very end of the wait comes after it. -/
def await (session : Session) : Nat → Session
  | 0 => session
  | before + 1 => ((session.background.advance before).background).advance 1

/-! ## Commands -/

/-- A fresh identifier, above all that users number by themselves. -/
def freshId (session : Session) : ExecutionId := .ofNat (UInt64.size + session.drawn)

/-- Note that a fresh identifier was used. -/
def drawId (session : Session) : Session := { session with drawn := session.drawn + 1 }

/-- Execute the command that a text stands for. -/
def execute (session : Session) (text : String) : Session × Option Reply :=
  let (assistant, reply) :=
    session.assistant.execute session.around session.freshId text
  ({ session with assistant := assistant }.drawId, reply)

/-- Execute a command under an identifier. -/
def run (session : Session) (id : ExecutionId) (command : Command) :
    Session × Stage :=
  let (engine, stage) := session.assistant.engine.execute session.around id command
  let after := session.withEngine engine
  match stage with
  | .settled _ => (after, stage)
  | .waiting serial rest => ({ after with work := after.work ++ [⟨serial, rest⟩] }, stage)

/-- The reply of an execution that has settled. -/
def settledReply? : Stage → Option Reply
  | .settled reply => some reply
  | .waiting _ _ => none

/-- Execute a command under a fresh identifier. -/
def runFresh (session : Session) (command : Command) : Session × Option Reply :=
  let (after, stage) := session.drawId.run session.freshId command
  (after, settledReply? stage)

/-- Execute the command that a text stands for, without learning from it. -/
def runText (session : Session) (text : String) : Session × Option Reply :=
  match Command.parse text with
  | .error reason => (session, some (Assistant.rejectedReply text reason))
  | .ok command => session.runFresh command

/-- Begin a named execution, and say whether it is pending. -/
def spawn (session : Session) (task : String) (id : ExecutionId) (command : Command) :
    Session × Bool :=
  let (after, stage) := session.run id command
  let entry :=
    match stage with
    | .settled reply => Task.finished reply
    | .waiting serial _ => .running serial
  ({ after with tasks := after.tasks.insert task entry }, after.executions.isPending id)

/-- The reply of a named execution that has settled. -/
def taskReply? (session : Session) (task : String) : Option Reply :=
  match session.tasks.get? task with
  | some (.finished reply) => some reply
  | _ => none

/-- Forget a named execution. -/
def forget (session : Session) (task : String) : Session :=
  { session with tasks := session.tasks.erase task }

/-- Wait for a named execution, which is then forgotten.  There is no reply if it
would be waited for in vain. -/
def collect (session : Session) (task : String) : Session × Option Reply :=
  match session.taskReply? task with
  | some reply => (session.forget task, some reply)
  | none =>
      let after := session.background
      match after.taskReply? task with
      | some reply => (after.forget task, some reply)
      | none => (after, none)

/-- Wake the executions that await their cancellation and have been cancelled. -/
def wakeCancelled (session : Session) : Session :=
  session.wake fun work =>
    work.rest.awaitsCancel &&
      ((session.executions.flight? work.serial).map Flight.cancelled).getD false

/-- Cancel what is pending under an identifier. -/
def cancel (session : Session) (id : ExecutionId) : Session × Bool :=
  let (executions, found) := session.executions.cancel id
  ((session.withExecutions executions).wakeCancelled, found)

/-- Cancel everything that is pending, and count it. -/
def cancelAll (session : Session) : Session × Nat :=
  let (executions, count) := session.executions.cancelAll
  ((session.withExecutions executions).wakeCancelled, count)

/-- Open a gate for good. -/
def openGate (session : Session) (gate : String) : Session :=
  { session.wake fun work => work.rest.awaitsGate gate with
    openGates := gate :: session.openGates }

/-! ## Registry and plugins -/

/-- Register a handler by hand, and say whether its place was free. -/
def register (session : Session) (registration : Registry.Registration)
    (code : HandlerCode) : Session × Bool :=
  match session.registry.register? registration.usage (.custom code) with
  | some registry => (session.withRegistry registry, true)
  | none => (session, false)

/-- Run a command through the registry alone.  There is no reply if its handler waits
for something. -/
def runRegistered (session : Session) (full : String) (args : List Json)
    (flags : JsonMap) : Session × Option Reply :=
  let (registry, routine) := session.registry.execute full args flags
  let after := session.withRegistry registry
  match (routine.advance session.openGates.contains false).2 with
  | .finished reply => (after, some reply)
  | .waiting _ => (after, none)

/-- Tell the watcher of a change of plugins, if there is one. -/
def announce (session : Session) (event : LifecycleEvent) : Session :=
  match session.watcher with
  | some feed => { session with watcher := some (feed.push event) }.plan .rebuild
  | none => session

/-- Take in a plugin, and say whether its identifier was free. -/
def registerPlugin (session : Session) (plugin : Plugin) : Session × Bool :=
  match session.store.register? plugin with
  | some (store, event) => ({ session with store := store }.announce event, true)
  | none => (session, false)

/-- Remove a plugin, and say whether it was held. -/
def unregisterPlugin (session : Session) (id : String) : Session × Bool :=
  match session.store.unregister? id with
  | some (store, event) => ({ session with store := store }.announce event, true)
  | none => (session, false)

/-- Change a plugin that is held. -/
def modifyPlugin (session : Session) (id : String) (change : Plugin → Plugin) :
    Session :=
  { session with store := session.store.modify id change }

/-- Change the repository of a plugin that is held. -/
def modifyRepository (session : Session) (id : String)
    (change : Repository → Repository) : Session :=
  session.modifyPlugin id fun plugin =>
    { plugin with repository := plugin.repository.map change }

/-! ## Context and generation -/

/-- Start refreshing the context in the background, in place of what was started
before. -/
def startRefresh (session : Session) : Session :=
  let before := session.refreshers
  { session with
    refreshers := before.start session.assistant.settings.refreshInterval
  }.planRefreshers (before.spawned :: before.running.toList)

/-- Stop refreshing the context, and say whether that was going on. -/
def stopRefresh (session : Session) : Session × Bool :=
  let before := session.refreshers
  ({ session with refreshers := before.abort }.planRefreshers before.running.toList,
    before.running.isSome)

/-- Ask the language model about commits, wait for its reply as long as patience
lasts, and return the issue key in it. -/
def ask (session : Session) (model : LanguageModel) (commits : List String) :
    Session × Option String :=
  let reply := model.next
  let patience := session.assistant.settings.modelTimeout
  let after :=
    { session with model := some (model.asked (IssueKey.question commits)) }
  (after.await (reply.wait patience), reply.issueKey? patience)

/-- The issue key that the language model finds, if there is need and a model to
ask. -/
def guess (session : Session) (pattern : String) (context : Context) :
    Session × Option String :=
  match session.assistant.question? pattern context session.clock, session.model with
  | some commits, some model => session.ask model commits
  | _, _ => (session, none)

/-- The command for a pattern, in a given context or in the present one. -/
def generate (session : Session) (pattern : String) (context : Option Context) :
    Session × Option String :=
  let snapshot := context.getD session.assistant.context
  let (after, guessed) := session.guess pattern snapshot
  let (assistant, command) :=
    after.assistant.generate pattern snapshot after.clock guessed
  ({ after with assistant := assistant }, command)

end Session

end ChatOps
