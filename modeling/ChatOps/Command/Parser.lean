import ChatOps.Command
import ChatOps.Command.Argument
import ChatOps.Command.Token
import ChatOps.Failure

/-!
# Reading commands

A command is `/name` or `@address:name`, where the name of the second form may go
on with `:sub`, and behind it stand its arguments.  All other text is prose.
-/

set_option autoImplicit false

namespace ChatOps.Command

/-- Whether a text looks like a command: behind leading blanks stands a slash, or
an at sign and somewhere a colon. -/
def isCommand (text : String) : Bool :=
  match Text.trimStart text.toList with
  | '/' :: _ => true
  | '@' :: rest => rest.contains ':'
  | _ => false

/-- The agent of a slash command: the text before a colon, if there is any. -/
def slashAgent (name : List Char) : String :=
  match Text.cut? ':' name with
  | some ([], _) => coreAgent
  | some (agent, _) => Text.asciiLower (String.ofList agent)
  | none => coreAgent

/-- The command that a slash and this name stand for. -/
def ofSlash (name : List Char) : Except Rejection Command :=
  if name.isEmpty then .error .emptyCommand
  else .ok { system (String.ofList name) with agent := slashAgent name }

/-- The name behind an address, and the part behind its colon unless that is
empty. -/
def nameAndSub (text : List Char) : List Char × Option String :=
  match Text.cut? ':' text with
  | some (name, []) => (name, none)
  | some (name, sub) => (name, some (String.ofList sub))
  | none => (text, none)

/-- The command of an address, which is a domain's name or else an agent. -/
def ofTarget (target name : String) : Command :=
  match Domain.named? target with
  | some place => forDomain place name
  | none => forAgent (Text.asciiLower (Text.trimmed target)) name

/-- The command that an at sign and this text stand for. -/
def ofAddressed (text : List Char) : Except Rejection Command :=
  match Text.cut? ':' text with
  | none => .error (.missingSeparator (String.ofList text))
  | some (target, rest) =>
      let (name, sub) := nameAndSub rest
      if (Text.trim target).isEmpty then .error .emptyAddress
      else if name.isEmpty then .error .emptyCommand
      else
        .ok { ofTarget (String.ofList target) (String.ofList name) with sub := sub }

/-- The command that a first token stands for. -/
def ofHead (head : String) : Except Rejection Command :=
  match head.toList with
  | '/' :: name => ofSlash name
  | '@' :: address => ofAddressed address
  | _ => .error .notACommand

/-- The command with these arguments and this text. -/
def withArguments (command : Command) (arguments : Arguments) (raw : String) :
    Command :=
  { command with
    args := arguments.args
    flags := arguments.flags
    options := arguments.options
    raw := raw }

/-- The command that a text stands for, or why it stands for none. -/
def parse (text : String) : Except Rejection Command :=
  if isCommand text then
    let line := Text.trimmed text
    match Token.split line with
    | [] => .error .notACommand
    | head :: rest => do
        let command ← ofHead head
        .ok (command.withArguments (Arguments.ofTokens rest) line)
  else .error .notACommand

/-- The command that a text stands for, if any. -/
def ofText? (text : String) : Option Command := (parse text).toOption

end ChatOps.Command
