import ChatOps.PluginStore
import ChatOps.Text.Nearest

/-!
# Tables of commands

Handlers and usage notes by address and name.  An address is a namespace of its
own; under the core address a name is found with or without its slash.
-/

set_option autoImplicit false

namespace ChatOps

/-- The commands that are always there. -/
inductive Builtin where
  | help
  | addressedHelp
  | model
  | models
  | debug
  deriving DecidableEq

/-- What runs a registered command. -/
inductive Handler where
  | builtin (command : Builtin)
  | plugin (owner : Plugin)
  | custom (code : HandlerCode)

/-- Values by address and name. -/
abbrev Namespaces (Value : Type) := SortedMap Address (SortedMap String Value)

namespace Namespaces

variable {Value : Type}

/-- The names at an address. -/
def space (spaces : Namespaces Value) (address : Address) : SortedMap String Value :=
  (spaces.get? address).getD .empty

/-- The value under a name at an address. -/
def find? (spaces : Namespaces Value) (address : Address) (name : String) :
    Option Value :=
  (Namespaces.space spaces address).get? name

/-- Store a value under a name at an address. -/
def put (spaces : Namespaces Value) (address : Address) (name : String)
    (value : Value) : Namespaces Value :=
  spaces.insert address ((Namespaces.space spaces address).insert name value)

/-- Every value, in the order of addresses and names. -/
def all (spaces : Namespaces Value) : List Value :=
  spaces.values.flatMap SortedMap.values

end Namespaces

/-- The handlers and the usage notes. -/
structure Tables where
  handlers : Namespaces Handler
  usages : Namespaces Usage

namespace Tables

def empty : Tables := ⟨.empty, .empty⟩

/-- Store a handler, with or without a usage note, unless its place is taken. -/
def insert? (tables : Tables) (address : Address) (name : String)
    (handler : Handler) (usage : Option Usage) : Option Tables :=
  match Namespaces.find? tables.handlers address name with
  | some _ => none
  | none =>
      some
        { handlers := Namespaces.put tables.handlers address name handler
          usages :=
            match usage with
            | some note => Namespaces.put tables.usages address name note
            | none => tables.usages }

/-- A name without its slash, or with one if it has none. -/
def respelled (name : String) : String :=
  match name.toList with
  | '/' :: bare => String.ofList bare
  | _ => "/" ++ name

/-- The handler of a command. -/
def handler? (tables : Tables) (address : Address) (name : String) :
    Option Handler :=
  match Namespaces.find? tables.handlers address name with
  | some handler => some handler
  | none =>
      if address.isCore then
        Namespaces.find? tables.handlers address (respelled name)
      else none

/-- The names registered at an address. -/
def names (tables : Tables) (address : Address) : List String :=
  (Namespaces.space tables.handlers address).keys

/-- The usage notes at an address. -/
def usagesAt (tables : Tables) (address : Address) : List Usage :=
  (Namespaces.space tables.usages address).values

/-- Every usage note: those of domains, then those of agents. -/
def allUsages (tables : Tables) : List Usage := Namespaces.all tables.usages

/-- The agents with at least one command. -/
def agents (tables : Tables) : List String :=
  tables.handlers.keys.filterMap fun address =>
    match address with
    | .agent id => some id
    | .domain _ => none

/-- The domains with at least one command. -/
def domains (tables : Tables) : List Domain :=
  tables.handlers.keys.filterMap fun address =>
    match address with
    | .agent _ => none
    | .domain domain => some domain

/-- The number of handlers. -/
def handlerCount (tables : Tables) : Nat := (Namespaces.all tables.handlers).length

/-! ## Suggestions -/

/-- The number of names suggested. -/
def mostSuggestions : Nat := 3

/-- The distance up to which a name is suggested. -/
def greatestDistance : Nat := 3

/-- The names near to one that is not registered, as users write them. -/
def suggestions (tables : Tables) (address : Address) (name : String) : List String :=
  let near := (Text.nearest name (tables.names address)).filter fun ranked =>
    decide (ranked.distance ≤ greatestDistance)
  ((near.map fun ranked => address.qualify ranked.name).eraseDups).take mostSuggestions

/-! ## Rebuilding -/

/-- A usage note with an example and perhaps a syntax of its own. -/
def coreUsage (name description : String) : Usage :=
  Usage.describe .core name description

/-- The built-in commands with their names and usage notes. -/
def builtins : List (String × Builtin × Option Usage) :=
  [("/help", .help,
      some { coreUsage "/help" "List available commands" with examples := ["/help"] }),
    ("help", .help, none),
    ("/help:at", .addressedHelp,
      some (coreUsage "/help:at" "List @domain and @agent commands")),
    ("/model", .model,
      some { coreUsage "/model" "Show or switch the active model" with
        syntaxLine := "/model [name]"
        examples := ["/model", "/model gpt-4o"] }),
    ("/debug", .debug, some (coreUsage "/debug" "Show registry diagnostics")),
    ("models", .models, some (coreUsage "models" "List available models"))]

/-- Store a handler if its place is free. -/
def insert (tables : Tables) (address : Address) (name : String)
    (handler : Handler) (usage : Option Usage) : Tables :=
  (tables.insert? address name handler usage).getD tables

/-- The tables of the built-in commands. -/
def core : Tables :=
  builtins.foldl (fun tables entry =>
    tables.insert .core entry.1 (.builtin entry.2.1) entry.2.2) empty

/-- The commands that plugins declare, in order. -/
def declarations (plugins : List Plugin) : List (Plugin × Declaration) :=
  plugins.flatMap fun plugin => plugin.commands.map fun declared => (plugin, declared)

/-- Store a declared command if its place is free, and count it. -/
def declare (state : Tables × Nat) (entry : Plugin × Declaration) : Tables × Nat :=
  let address := entry.1.addressOf entry.2
  match state.1.insert? address entry.2.name (.plugin entry.1)
      (some (entry.2.usage address)) with
  | some tables => (tables, state.2 + 1)
  | none => state

/-- The tables of the built-in commands and of the plugins that are switched on, and
the number of commands of the latter. -/
def ofPlugins (store : PluginStore) : Tables × Nat :=
  (declarations store.enabled).foldl declare (core, 0)

end Tables

end ChatOps
