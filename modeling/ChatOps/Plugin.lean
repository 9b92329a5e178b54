import ChatOps.Output
import ChatOps.Repository
import ChatOps.Routine
import ChatOps.Usage

/-!
# Plugins

A plugin brings commands of its own, for its domain or under its identifier, and
runs them if it is ready.
-/

set_option autoImplicit false

namespace ChatOps

/-- What a handler is given. -/
structure Invocation where
  command : String
  args : List Json
  flags : JsonMap
  options : JsonMap

/-- The first positional argument as text. -/
def Invocation.firstArg? (invocation : Invocation) : Option String :=
  invocation.args.head?.map Output.plainText

/-- How a handler ends. -/
abbrev HandlerOutcome := Except HandlerError Output

/-- How a plugin ends. -/
abbrev PluginOutcome := Except PluginError Output

/-- The code of a command. -/
abbrev HandlerCode := Invocation → Routine HandlerOutcome

/-- A command that a plugin declares.  Its own domain goes before that of the
plugin. -/
structure Declaration where
  name : String
  description : String
  syntaxLine : Option String
  examples : List String
  flags : List String
  domain : Option Domain
  deriving DecidableEq

/-- The usage note of a declared command at an address. -/
def Declaration.usage (declared : Declaration) (address : Address) : Usage :=
  let plain := Usage.describe address declared.name declared.description
  { plain with
    syntaxLine := declared.syntaxLine.getD plain.syntaxLine
    examples := declared.examples
    flags := declared.flags }

/-- What a user is told to do before a plugin can be used. -/
structure SetupGuide where
  title : String
  steps : List String
  docsUrl : Option String
  deriving DecidableEq

/-- An integration that brings commands. -/
structure Plugin where
  id : String
  displayName : String
  domain : Option Domain
  commands : List Declaration
  enabled : Bool
  initialized : Bool
  authenticated : Bool
  setup : Option SetupGuide
  repository : Option Repository
  run : Invocation → Routine PluginOutcome

namespace Plugin

/-- The identifier in lower case, by which plugins are told apart. -/
def key (plugin : Plugin) : String := Text.asciiLower plugin.id

/-- Whether the plugin can run commands; the first reason against it counts. -/
def availability (plugin : Plugin) : Availability :=
  if !plugin.enabled then .disabled
  else if !plugin.initialized then .uninitialized
  else if !plugin.authenticated then .unauthenticated
  else .ready

/-- A plugin with nothing but an identifier, commands and code. -/
def plain (id : String) (commands : List Declaration)
    (run : Invocation → Routine PluginOutcome) : Plugin :=
  { id := id
    displayName := id
    domain := none
    commands := commands
    enabled := true
    initialized := true
    authenticated := true
    setup := none
    repository := none
    run := run }

/-- Where a declared command is registered. -/
def addressOf (plugin : Plugin) (declared : Declaration) : Address :=
  match declared.domain <|> plugin.domain with
  | some domain => .domain domain
  | none => .agent plugin.key

/-- Run a command by the code declared with it; the first one with its name
counts. -/
def runDeclared (id : String) (commands : List (Declaration × HandlerCode))
    (invocation : Invocation) : Routine PluginOutcome :=
  match commands.find? fun entry => entry.1.name == invocation.command with
  | some entry =>
      (entry.2 invocation).map fun outcome => outcome.mapError PluginError.handler
  | none => .done (.error (.unsupported id invocation.command))

/-- A plugin whose commands have fixed code. -/
def ofCommands (id : String) (commands : List (Declaration × HandlerCode)) : Plugin :=
  plain id (commands.map Prod.fst) (runDeclared id commands)

end Plugin

end ChatOps
