import ChatOps.Address

/-!
# Commands

A command as parsed from a text: where it goes, its name, its arguments, and the
text itself.
-/

set_option autoImplicit false

namespace ChatOps

/-- The sign in front of a command. -/
inductive Sigil where
  | atSign
  | slash
  | absent
  deriving DecidableEq

namespace Sigil

def name : Sigil → String
  | .atSign => "at"
  | .slash => "slash"
  | .absent => "none"

def all : List Sigil := [.atSign, .slash, .absent]

def ofName? (name : String) : Option Sigil := all.find? fun sigil => sigil.name == name

/-- The sign as users write it. -/
def sign : Sigil → String
  | .atSign => "@"
  | .slash => "/"
  | .absent => ""

def toJson (sigil : Sigil) : Json := .string sigil.name

def ofJson? : Json → Option Sigil := Json.choice? ofName?

end Sigil

/-- How a command is addressed. -/
inductive CommandKind where
  | domain
  | agent
  | system
  deriving DecidableEq

namespace CommandKind

def name : CommandKind → String
  | .domain => "domain"
  | .agent => "agent"
  | .system => "system"

def all : List CommandKind := [.domain, .agent, .system]

def ofName? (name : String) : Option CommandKind :=
  all.find? fun kind => kind.name == name

def toJson (kind : CommandKind) : Json := .string kind.name

def ofJson? : Json → Option CommandKind := Json.choice? ofName?

end CommandKind

/-- A parsed command.  `args` are positional, `flags` come from dashes, and
`options` from bare `key=value`. -/
structure Command where
  sigil : Sigil
  kind : CommandKind
  domain : Option Domain
  agent : String
  name : String
  sub : Option String
  args : List Json
  flags : JsonMap
  options : JsonMap
  raw : String

namespace Command

/-- A command of the core agent. -/
def system (name : String) : Command :=
  { sigil := .slash
    kind := .system
    domain := none
    agent := coreAgent
    name := name
    sub := none
    args := []
    flags := .empty
    options := .empty
    raw := "/" ++ name }

/-- A command of a domain. -/
def forDomain (domain : Domain) (name : String) : Command :=
  { system name with
    sigil := .atSign
    kind := .domain
    domain := some domain
    agent := domain.name
    raw := "@" ++ domain.name ++ ":" ++ name }

/-- A command of an agent. -/
def forAgent (agent name : String) : Command :=
  { system name with
    sigil := .atSign
    kind := .agent
    agent := agent
    raw := "@" ++ agent ++ ":" ++ name }

/-- Where the command's handler is registered. -/
def address (command : Command) : Address :=
  match command.domain with
  | some domain => .domain domain
  | none => if command.kind = .system then .core else .agent command.agent

/-- The command's name as users write it. -/
def displayName (command : Command) : String :=
  let qualified := command.address.qualify command.name
  match command.sub with
  | some sub => qualified ++ ":" ++ sub
  | none => qualified

/-- Equality apart from the text that was parsed. -/
def sameMeaning (left right : Command) : Bool :=
  left.sigil == right.sigil && left.kind == right.kind &&
    left.domain == right.domain && left.agent == right.agent &&
    left.name == right.name && left.sub == right.sub &&
    Json.sameItems left.args right.args && Json.sameMap left.flags right.flags &&
    Json.sameMap left.options right.options

/-! ## JSON -/

def toJson (command : Command) : Json :=
  Json.ofMembers
    [("prefix", command.sigil.toJson), ("kind", command.kind.toJson),
      ("domain", Json.ofOption Domain.toJson command.domain),
      ("agent_id", .string command.agent), ("command", .string command.name),
      ("sub_command", Json.ofOption .string command.sub),
      ("args", .array command.args), ("flags", Json.ofMap command.flags),
      ("options", Json.ofMap command.options), ("raw_input", .string command.raw)]

def fields : List Json.Field :=
  [⟨"prefix", .required⟩, ⟨"kind", .required⟩, ⟨"domain", .optional⟩,
    ⟨"agent_id", .required⟩, ⟨"command", .required⟩, ⟨"sub_command", .optional⟩,
    ⟨"args", .required⟩, ⟨"flags", .required⟩, ⟨"options", .required⟩,
    ⟨"raw_input", .required⟩]

def ofJson? (json : Json) : Option Command :=
  match json.fields? fields with
  | some [sigil, kind, domain, agent, name, sub, args, flags, options, raw] => do
      let sigil ← Json.given? Sigil.ofJson? sigil
      let kind ← Json.given? CommandKind.ofJson? kind
      let domain ← Json.optional? Domain.ofJson? domain
      let agent ← Json.given? Json.asString? agent
      let name ← Json.given? Json.asString? name
      let sub ← Json.optional? Json.asString? sub
      let args ← Json.given? Json.asArray? args
      let flags ← Json.given? Json.asMap? flags
      let options ← Json.given? Json.asMap? options
      let raw ← Json.given? Json.asString? raw
      some ⟨sigil, kind, domain, agent, name, sub, args, flags, options, raw⟩
  | _ => none

end Command

end ChatOps
