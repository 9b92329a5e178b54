import ChatOps.Json.Member
import ChatOps.Script

/-!
# Reading scripts

Scripted handlers and plugins as JSON.
-/

set_option autoImplicit false

namespace ChatOps

namespace Script

/-- The script of a kind that nothing follows. -/
def simple? (kind : String) (json : Json) : Option Script :=
  let said := json.needText? "message"
  match kind with
  | "empty" => some (.output .empty)
  | "text" => (json.needText? "text").map fun content => .output (.text content)
  | "markdown" => (json.needText? "text").map fun content => .output (.markdown content)
  | "json" => some (.output (.json ((json.member? "data").getD .null)))
  | "result" => (json.need? Reply.ofJson? "result").map fun reply => .output (.reply reply)
  | "legacy" => do
      let content ← json.needText? "content"
      let reason ← json.maybe? Json.asString? "error"
      some (.output (.legacy content reason))
  | "sniff" => some (.classified ((json.member? "value").getD .null))
  | "sniff_fail" => said.map fun reason => .error (.handler (.failed reason))
  | "echo" => some .echo
  | "first_arg" => some .firstArg
  | "fail" => said.map fun reason => .error (.handler (.failed reason))
  | "invalid" => said.map fun reason => .error (.handler (.invalidArguments reason))
  | "cancelled" => some (.error (.handler .cancelled))
  | "runtime" => said.map fun reason => .error (.runtime reason)
  | "unsupported" => do
      let owner ← json.needText? "plugin"
      let command ← json.needText? "command"
      some (.error (.unsupported owner command))
  | _ => none

/-- The script of a kind that another script follows. -/
def followed? (kind : String) (json : Json) (rest : Script) : Option Script :=
  match kind with
  | "wait" => some (.awaitCancel rest)
  | "gate" => (json.needText? "gate").map fun gate => .awaitGate gate rest
  | "cancel_self" => some (.cancelSelf rest)
  | _ => none

/-- The kinds of scripts that another script follows. -/
def followedKinds : List String := ["wait", "gate", "cancel_self"]

/-- Read a script. -/
def ofJson? (json : Json) : Option Script :=
  match json.needText? "kind" with
  | none => none
  | some kind =>
      if followedKinds.contains kind then
        match following : json.member? "then" with
        | some next =>
            have := Json.sizeOf_lt_of_member? following
            (ofJson? next).bind (followed? kind json)
        | none => none
      else simple? kind json
termination_by sizeOf json

end Script

def Declaration.ofJson? (json : Json) : Option Declaration := do
  let name ← json.needText? "name"
  let description ← json.orElse? "" Json.asString? "description"
  let syntaxLine ← json.maybe? Json.asString? "syntax"
  let examples ← json.orElse? [] Json.asStrings? "examples"
  let flags ← json.orElse? [] Json.asStrings? "flags"
  let domain ← json.maybe? Domain.ofJson? "domain"
  some ⟨name, description, syntaxLine, examples, flags, domain⟩

def SetupGuide.ofJson? (json : Json) : Option SetupGuide := do
  let title ← json.needText? "title"
  let steps ← json.needTexts? "steps"
  let docsUrl ← json.maybe? Json.asString? "docs_url"
  some ⟨title, steps, docsUrl⟩

namespace Repository

def branch? (json : Json) : Option Branch := do
  let name ← json.needText? "name"
  let current ← json.orElse? false Json.asBool? "current"
  let tracked ← json.maybe? Json.asString? "upstream"
  some ⟨name, tracked, current⟩

def query? (json : Json) : Option RepositoryQuery :=
  json.asString?.bind RepositoryQuery.ofName?

def ofJson? (json : Json) : Option Repository := do
  let available ← json.orElse? true Json.asBool? "available"
  let branches ← json.orElse? [] (Json.list? branch?) "branches"
  let changedFiles ← json.orElse? [] Json.asStrings? "changed_files"
  let userName ← json.maybe? Json.asString? "user_name"
  let remoteUrl ← json.maybe? Json.asString? "remote_url"
  let commits ← json.orElse? [] Json.asStrings? "commits"
  let failing ← json.maybe? query? "fail_on"
  some ⟨available, ⟨branches, changedFiles, userName, remoteUrl, commits⟩,
    failing.toList⟩

end Repository

namespace Plugin

/-- A declared command with its script. -/
def command? (json : Json) : Option (Declaration × Script) := do
  let declared ← Declaration.ofJson? json
  let script ← json.orElse? .echo Script.ofJson? "run"
  some (declared, script)

/-- Scripts by the names of commands. -/
def dynamic? (json : Json) : Option (SortedMap String Script) := do
  let members ← json.asMap?
  let scripts ← members.entries.mapM fun entry =>
    (Script.ofJson? entry.2).map fun script => (entry.1, script)
  some (SortedMap.ofList scripts)

/-- Read a plugin put together from scripts. -/
def ofJson? (json : Json) : Option Plugin := do
  let id ← json.needText? "id"
  let commands ← json.orElse? [] (Json.list? command?) "commands"
  let dynamic ← json.orElse? .empty dynamic? "dynamic"
  let enabled ← json.orElse? true Json.asBool? "enabled"
  let minimal ← json.orElse? false Json.asBool? "minimal"
  if minimal then
    some { Script.minimalPlugin id (commands.map Prod.fst) dynamic with enabled := enabled }
  else do
    let displayName ← json.orElse? id Json.asString? "display_name"
    let domain ← json.maybe? Domain.ofJson? "domain"
    let initialized ← json.orElse? true Json.asBool? "initialized"
    let authenticated ← json.orElse? true Json.asBool? "authenticated"
    let setup ← json.maybe? SetupGuide.ofJson? "setup"
    let repository ← json.maybe? Repository.ofJson? "git"
    some
      { Script.plugin id commands dynamic with
        displayName := displayName
        domain := domain
        enabled := enabled
        initialized := initialized
        authenticated := authenticated
        setup := setup
        repository := repository }

/-- The state of a plugin. -/
def toJson (plugin : Plugin) : Json :=
  Json.ofMembers
    [("id", .string plugin.id), ("display_name", .string plugin.displayName),
      ("domain", Json.ofOption Domain.toJson plugin.domain),
      ("enabled", .bool plugin.enabled), ("initialized", .bool plugin.initialized),
      ("authenticated", .bool plugin.authenticated),
      ("availability", plugin.availability.toJson),
      ("commands", Json.ofStrings (plugin.commands.map Declaration.name)),
      ("has_setup", .bool plugin.setup.isSome),
      ("has_git", .bool plugin.repository.isSome)]

end Plugin

end ChatOps
