import ChatOps.Feed
import ChatOps.Registry.Builtin

/-!
# The registry

The tables in use, the language model in use, and the events of registrations.
Everything registered by hand is lost when the tables are rebuilt from the
plugins.
-/

set_option autoImplicit false

namespace ChatOps

/-- A change of the tables. -/
inductive RegistryEvent where
  | domainCommand (domain : Domain) (command : String)
  | agentCommand (agent command : String)
  | rebuilt (count : Nat)
  deriving DecidableEq

/-- The event of a registration at an address. -/
def RegistryEvent.ofRegistration (address : Address) (command : String) :
    RegistryEvent :=
  match address with
  | .domain domain => .domainCommand domain command
  | .agent id => .agentCommand id command

def RegistryEvent.toJson : RegistryEvent → Json
  | .domainCommand domain command =>
      Json.ofMembers
        [("event", .string "command"), ("domain", domain.toJson),
          ("command", .string command)]
  | .agentCommand agent command =>
      Json.ofMembers
        [("event", .string "agent_command"), ("agent", .string agent),
          ("command", .string command)]
  | .rebuilt count =>
      Json.ofMembers [("event", .string "changed"), ("count", Json.ofNat count)]

/-- Commands, models, and the events that are still to be read. -/
structure Registry where
  tables : Tables
  models : ModelChoice
  feed : Feed RegistryEvent

namespace Registry

/-- The number of events kept for a reader. -/
def feedCapacity : Nat := 64

/-- The registry of these plugins; its first rebuild is not an event. -/
def ofPlugins (store : PluginStore) (models : ModelChoice) : Registry :=
  ⟨(Tables.ofPlugins store).1, models, .empty feedCapacity⟩

/-- Rebuild the tables from the plugins. -/
def refresh (registry : Registry) (store : PluginStore) : Registry :=
  let (tables, count) := Tables.ofPlugins store
  { registry with tables := tables, feed := registry.feed.push (.rebuilt count) }

/-- The number of plugin commands that a rebuild stores. -/
def refreshCount (store : PluginStore) : Nat := (Tables.ofPlugins store).2

/-- Store a handler under the address and name of its usage note, unless the place
is taken. -/
def register? (registry : Registry) (usage : Usage) (handler : Handler) :
    Option Registry :=
  (registry.tables.insert? usage.address usage.command handler (some usage)).map
    fun tables =>
      { registry with
        tables := tables
        feed := registry.feed.push
          (.ofRegistration usage.address usage.command) }

/-- The ways to name what is registered. -/
inductive Registration where
  | noted (usage : Usage)
  | addressed (address : Address) (command : String)
  | domain (domain : Domain) (command : String)
  | agent (id command : String)
  | system (command description : String)

/-- The usage note of a registration.  Agents are told apart in lower case, and the
names of core commands begin with a slash. -/
def Registration.usage : Registration → Usage
  | .noted usage => usage
  | .addressed address command => Usage.describe address command ""
  | .domain place command => Usage.describe (.domain place) command ""
  | .agent id command =>
      Usage.describe (.agent (Text.asciiLower (Text.trimmed id))) command ""
  | .system command description =>
      Usage.describe .core (Address.slashed command) description

/-! ## Running commands -/

/-- Start a handler.  A built-in command ends at once and may change the model in
use; the code of others runs on its own. -/
def call (registry : Registry) (handler : Handler) (invocation : Invocation) :
    Registry × Routine HandlerOutcome :=
  match handler with
  | .builtin command =>
      let (models, outcome) :=
        command.run registry.tables registry.models invocation
      ({ registry with models := models }, .done outcome)
  | .plugin owner =>
      (registry, (owner.run invocation).map fun outcome =>
        outcome.mapError PluginError.toHandlerError)
  | .custom code => (registry, code invocation)

/-- The address and name that a full command text stands for.  Without a slash and
a colon it is a core command. -/
def resolve (full : String) : Address × String :=
  let text := Text.trim full.toList
  match text with
  | '/' :: _ => (.core, String.ofList text)
  | _ =>
      let plain := (Text.afterStart? ['@'] text).getD text
      match Text.cut? ':' plain with
      | some (segment, name) =>
          (Address.resolve (String.ofList segment), String.ofList name)
      | none => (.core, String.ofList plain)

/-- The failure to find a command, with names near to it. -/
def missing (tables : Tables) (address : Address) (command : String) : Failure :=
  .unknown (address.qualify command) (tables.suggestions address command)

/-- The reply to how a handler ends outside of an execution. -/
def replyOf : HandlerOutcome → Reply
  | .ok output => output.toReply
  | .error error => Reply.ofFailure error.toFailure

/-- Run a command given by its full text. -/
def execute (registry : Registry) (full : String) (args : List Json)
    (flags : JsonMap) : Registry × Routine Reply :=
  let (address, command) := resolve full
  match registry.tables.handler? address command with
  | none =>
      (registry, .done (Reply.ofFailure (missing registry.tables address command)))
  | some handler =>
      let (after, routine) :=
        registry.call handler ⟨command, args, flags, .empty⟩
      (after, routine.map replyOf)

end Registry

end ChatOps
