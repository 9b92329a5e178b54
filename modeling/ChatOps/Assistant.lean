import ChatOps.Command.Parser
import ChatOps.Engine
import ChatOps.Generation
import ChatOps.Preferences
import ChatOps.Settings

/-!
# The assistant

Everything around the engine: the context and how it is refreshed, the issue key
that is remembered for a while, and the arguments that users have preferred.
-/

set_option autoImplicit false

namespace ChatOps

/-- An issue key and when it was found. -/
structure RememberedKey where
  key : String
  foundAt : Instant
  deriving DecidableEq

/-- The state of an assistant. -/
structure Assistant where
  settings : Settings
  engine : Engine
  context : Context
  remembered : Option RememberedKey
  preferences : Preferences
  feed : Feed (List Integration)

namespace Assistant

/-- The number of events kept for a reader. -/
def feedCapacity : Nat := 16

/-- An assistant that has just been set up. -/
def create (settings : Settings) (store : PluginStore) : Assistant :=
  { settings := settings
    engine := ⟨.ofPlugins store settings.models, .empty settings.historyCapacity⟩
    context := .empty
    remembered := none
    preferences := .empty settings.preferenceCapacity
    feed := .empty feedCapacity }

/-! ## Commands -/

/-- The reply to a text that is no command. -/
def rejectedReply (text : String) (reason : Rejection) : Reply :=
  Reply.ofRejection (some reason) (similarCommands text)

/-- Remember the arguments of an addressed command that has succeeded. -/
def learn (assistant : Assistant) (command : Command) (reply : Reply) : Assistant :=
  if reply.success && command.sigil == .atSign then
    { assistant with
      preferences :=
        assistant.preferences.record command.agent command.name command.args }
  else assistant

/-- Execute the command that a text stands for.  There is no reply if the execution
waits for something. -/
def execute (assistant : Assistant) (around : Surroundings) (id : ExecutionId)
    (text : String) : Assistant × Option Reply :=
  match Command.parse text with
  | .error reason => (assistant, some (rejectedReply text reason))
  | .ok command =>
      let (engine, stage) := assistant.engine.execute around id command
      let after := { assistant with engine := engine }
      match stage with
      | .settled reply => (after.learn command reply, some reply)
      | .waiting _ _ => (after, none)

/-! ## Context -/

def setActiveFile (assistant : Assistant) (file : Option String) : Assistant :=
  { assistant with context := { assistant.context with activeFile := file } }

/-- The remembered issue key if it is not too old, nor from the future. -/
def recentKey? (assistant : Assistant) (now : Instant) : Option String :=
  match assistant.remembered with
  | some entry =>
      let age := now.toNanos - entry.foundAt.toNanos
      let life : Int := assistant.settings.issueKeyLife * Instant.nanosPerMilli
      if 0 ≤ age ∧ age < life then some entry.key else none
  | none => none

/-- Whether a plugin is ready, as of now. -/
def connection (plugin : Plugin) (now : Instant) : Connection :=
  ⟨decide (plugin.availability = .ready), now, none⟩

/-- The context with one integration's part replaced by its present state, if that
can be had. -/
def refreshed? (assistant : Assistant) (store : PluginStore) (now : Instant)
    (context : Context) : Integration → Option Context
  | .git => do
      let plugin ← store.ofDomain? .git
      let repository ← plugin.repository
      match repository.inspect assistant.settings.commitLimit with
      | .ok copy => some { context with git := some copy }
      | .error _ => none
  | .jira =>
      (store.ofDomain? .jira).map fun plugin =>
        { context with
          jira := some { connection plugin now with
            currentItem := assistant.recentKey? now } }
  | .build =>
      (store.get? Integration.build.display).map fun plugin =>
        { context with build := some (connection plugin now) }
  | .pocket =>
      (store.ofDomain? .pocket).map fun plugin =>
        { context with pocket := some (connection plugin now) }

/-- Refresh one integration and note it if that was possible. -/
def refreshStep (assistant : Assistant) (store : PluginStore) (now : Instant)
    (state : Context × List Integration) (integration : Integration) :
    Context × List Integration :=
  match assistant.refreshed? store now state.1 integration with
  | some context => (context, state.2 ++ [integration])
  | none => state

/-- Refresh every integration, each on its own, and say which were refreshed. -/
def refreshContexts (assistant : Assistant) (store : PluginStore) (now : Instant) :
    Assistant × List Integration :=
  let (context, refreshed) :=
    Integration.all.foldl (assistant.refreshStep store now) (assistant.context, [])
  ({ assistant with context := context, feed := assistant.feed.push refreshed }, refreshed)

/-! ## Generation -/

/-- Where an issue key can come from. -/
inductive KeySource where
  | branch (key : String)
  | memory (key : String)
  | commits (messages : List String)
  | nowhere
  deriving DecidableEq

/-- The first source of an issue key: the current branch, the memory, and then the
commits, if there are any. -/
def keySource (assistant : Assistant) (context : Context) (now : Instant) : KeySource :=
  match context.currentBranchName?.bind IssueKey.ofText? with
  | some key => .branch key
  | none =>
      match assistant.recentKey? now with
      | some key => .memory key
      | none =>
          let messages :=
            ((context.git.map WorkingCopy.recentCommits).getD []).take
              assistant.settings.commitLimit
          if messages.isEmpty then .nowhere else .commits messages

/-- The issue key, given the one that a language model has found in the commits. -/
def KeySource.key? (source : KeySource) (guessed : Option String) : Option String :=
  match source with
  | .branch key => some key
  | .memory key => some key
  | .commits messages => guessed <|> IssueKey.ofCommits? messages
  | .nowhere => none

/-- Whether a key from this source is to be remembered. -/
def KeySource.isFresh : KeySource → Bool
  | .memory _ => false
  | _ => true

/-- Remember a key that was found now. -/
def remember (assistant : Assistant) (source : KeySource) (key : Option String)
    (now : Instant) : Assistant :=
  match key with
  | some found =>
      if source.isFresh then { assistant with remembered := some ⟨found, now⟩ }
      else assistant
  | none => assistant

/-- The commits to show to a language model for a pattern. -/
def question? (assistant : Assistant) (pattern : String) (context : Context)
    (now : Instant) : Option (List String) :=
  if Generation.patternKey pattern = Template.issue.key then
    match assistant.keySource context now with
    | .commits messages => some messages
    | _ => none
  else none

/-- The command for a pattern, given the issue key that a language model has found if
it was asked. -/
def generate (assistant : Assistant) (pattern : String) (context : Context)
    (now : Instant) (guessed : Option String) : Assistant × Option String :=
  let key := Generation.patternKey pattern
  if key = Template.issue.key then
    let source := assistant.keySource context now
    let found := source.key? guessed
    (assistant.remember source found now,
      found.map fun issue =>
        Template.issue.fill (Json.ofMembers [("key", .string issue)]))
  else (assistant, Generation.command? key context now)

/-- The commands suggested in the present context. -/
def suggestions (assistant : Assistant) (limit : Nat) (now : Instant) : List String :=
  Generation.suggestions assistant.context limit now

/-- The branches that can be checked out, as far as is known. -/
def checkoutOrder (assistant : Assistant) : List String :=
  ((assistant.context.git.map WorkingCopy.branches).map Generation.checkoutOrder).getD []

end Assistant

end ChatOps
