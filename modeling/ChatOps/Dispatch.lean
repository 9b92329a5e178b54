import ChatOps.Command
import ChatOps.Command.Misspelling
import ChatOps.Registry

/-!
# Dispatch

What is to be done for a command: a handler is invoked, a plugin is asked
directly, or neither, because a plugin is not ready or nobody knows the command.
Deciding this runs nothing.
-/

set_option autoImplicit false

namespace ChatOps

/-- A command that nobody knows, by the way it was addressed. -/
inductive Miss where
  | domain (domain : Domain) (command : String)
  | agent (id command line : String)
  | core (command : String)
  deriving DecidableEq

namespace Miss

/-- The names of a domain nearest to one that it does not know. -/
def siblings (tables : Tables) (domain : Domain) (command : String) : List String :=
  ((Text.nearest command (tables.names (.domain domain))).take
    Tables.mostSuggestions).map fun ranked => "@" ++ domain.name ++ ":" ++ ranked.name

/-- The failure of a command that nobody knows.  Where an agent has no name like
it, commands are suggested that the text may have been meant for. -/
def failure (tables : Tables) : Miss → Failure
  | .domain place command =>
      .unknown ("@" ++ place.name ++ ":" ++ command) (siblings tables place command)
  | .agent id command line =>
      let near := tables.suggestions (.agent id) command
      .unknown ((Address.agent id).qualify command)
        (if near.isEmpty then similarCommands line else near)
  | .core command => .unknown ("/" ++ command) Reply.fallbackSuggestions

end Miss

/-- What is to be done for a command. -/
inductive Dispatch where
  | invoke (handler : Handler) (invocation : Invocation)
  | delegate (plugin : Plugin) (invocation : Invocation) (otherwise : Miss)
  | unavailable (plugin : String) (availability : Availability)
  | unknown (miss : Miss)

namespace Dispatch

/-- The invocation with the command's name and arguments. -/
def invocation (command : Command) : Invocation :=
  ⟨command.name, command.args, command.flags, command.options⟩

/-- The invocation with the part behind the name as first argument. -/
def invocationWithSub (command : Command) : Invocation :=
  match command.sub with
  | some sub => { invocation command with args := .string sub :: command.args }
  | none => invocation command

/-- The name together with the part behind it. -/
def qualifiedName (command : Command) : Option String :=
  command.sub.map fun sub => command.name ++ ":" ++ sub

/-- A handler with its invocation. -/
structure Match where
  handler : Handler
  invocation : Invocation

/-- The handler of a domain for the name together with the part behind it, or else
for the name alone. -/
def domainMatch? (tables : Tables) (domain : Domain) (command : Command) :
    Option Match :=
  let qualified := (qualifiedName command).bind fun name =>
    (tables.handler? (.domain domain) name).map fun handler =>
      (⟨handler, { invocation command with command := name }⟩ : Match)
  match qualified with
  | some found => some found
  | none =>
      (tables.handler? (.domain domain) command.name).map fun handler =>
        ⟨handler, invocationWithSub command⟩

/-- Invoke the handler found, or else ask the plugin, if there is one. -/
def route (found : Option Match) (plugin : Option Plugin) (asked : Invocation)
    (miss : Miss) : Dispatch :=
  match found, plugin with
  | some hit, _ => .invoke hit.handler hit.invocation
  | none, some owner => .delegate owner asked miss
  | none, none => .unknown miss

/-- Nothing is done if there is a plugin that is not ready. -/
def guarded (plugin : Option Plugin) (next : Dispatch) : Dispatch :=
  match plugin with
  | some owner =>
      match owner.availability with
      | .ready => next
      | reason => .unavailable owner.id reason
  | none => next

/-- What to do for a command of a domain. -/
def ofDomain (tables : Tables) (store : PluginStore) (domain : Domain)
    (command : Command) : Dispatch :=
  let plugin := store.ofDomain? domain
  guarded plugin
    (route (domainMatch? tables domain command) plugin (invocationWithSub command)
      (.domain domain command.name))

/-- What to do for a command of an agent. -/
def ofAgent (tables : Tables) (store : PluginStore) (command : Command) : Dispatch :=
  let plugin := store.get? command.agent
  let found := (tables.handler? (.agent command.agent) command.name).map fun handler =>
    (⟨handler, invocation command⟩ : Match)
  guarded plugin
    (route found plugin (invocation command)
      (.agent command.agent command.name command.raw))

/-- The handler of a core command, sought with a slash in front first. -/
def coreHandler? (tables : Tables) (name : String) : Option Handler :=
  match tables.handler? .core ("/" ++ name) with
  | some handler => some handler
  | none => tables.handler? .core name

/-- What to do for a core command. -/
def ofCore (tables : Tables) (command : Command) : Dispatch :=
  match coreHandler? tables command.name with
  | some handler => .invoke handler (invocation command)
  | none => .unknown (.core command.name)

/-- What to do for a command. -/
def ofCommand (tables : Tables) (store : PluginStore) (command : Command) :
    Dispatch :=
  match command.domain with
  | some domain => ofDomain tables store domain command
  | none =>
      if command.sigil = .atSign then ofAgent tables store command
      else ofCore tables command

/-! ## Carrying out -/

/-- Why an execution has no output. -/
inductive Fault where
  | failure (failure : Failure)
  | miss (miss : Miss)

/-- How an execution ends. -/
abbrev Outcome := Except Fault Output

/-- How an execution ends whose handler has ended so. -/
def ofHandler (outcome : HandlerOutcome) : Outcome :=
  outcome.mapError fun error => .failure error.toFailure

/-- How an execution ends whose plugin has ended so; a plugin that does not support
the command does not know it. -/
def ofPlugin (miss : Miss) : PluginOutcome → Outcome
  | .ok output => .ok output
  | .error (.unsupported _ _) => .error (.miss miss)
  | .error error => .error (.failure error.toFailure)

/-- Start what is to be done. -/
def start (registry : Registry) : Dispatch → Registry × Routine Outcome
  | .invoke handler given =>
      let (after, routine) := registry.call handler given
      (after, routine.map ofHandler)
  | .delegate plugin given miss => (registry, (plugin.run given).map (ofPlugin miss))
  | .unavailable plugin availability =>
      (registry, .done (.error (.failure (.unavailable plugin availability))))
  | .unknown miss => (registry, .done (.error (.miss miss)))

end Dispatch

end ChatOps
