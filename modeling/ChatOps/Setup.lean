import ChatOps.Command
import ChatOps.PluginStore

/-!
# Setting up plugins

The reply to a command whose plugin is not ready: what is the matter, and what the
user has to do about it.
-/

set_option autoImplicit false

namespace ChatOps.Setup

/-- What to do about a plugin without a guide of its own. -/
def defaultStep (displayName : String) : Availability → String
  | .disabled => "Enable " ++ displayName ++ " in your settings."
  | .uninitialized =>
      "Wait for " ++ displayName ++ " to finish starting, then try again."
  | .unauthenticated => "Sign in to " ++ displayName ++ " and try again."
  | .ready => "Sign in to " ++ displayName ++ " and try again."

/-- The guide for a plugin without one. -/
def defaultGuide (displayName : String) (availability : Availability) : SetupGuide :=
  ⟨"Set up " ++ displayName, [defaultStep displayName availability], none⟩

/-- A numbered line for each step. -/
def stepLines (steps : List String) : String :=
  String.join (steps.zipIdx.map fun step =>
    toString (step.2 + 1) ++ ". " ++ step.1 ++ "\n")

/-- The line that points at more documentation. -/
def docsLine (url : Option String) : String :=
  match url with
  | some target =>
      if target.isEmpty then ""
      else "\nSee [the setup guide](" ++ target ++ ") for details.\n"
  | none => ""

/-- A guide as text. -/
def guideText (guide : SetupGuide) (displayName : String)
    (availability : Availability) (command : Command) : String :=
  "## " ++ guide.title ++ "\n\n" ++ displayName ++ " is " ++ availability.words ++
    " and cannot run \x60" ++ command.displayName ++ "\x60 yet.\n" ++
    (if guide.steps.isEmpty then "" else "\n" ++ stepLines guide.steps) ++
    docsLine guide.docsUrl

/-- The plugin that a command needs. -/
def plugin? (store : PluginStore) (command : Command) (id : String) : Option Plugin :=
  match command.domain with
  | some domain => store.ofDomain? domain
  | none => store.get? id

/-- What is kept of the matter as data. -/
def data (id : String) (availability : Availability) (steps : List String) : Json :=
  Json.ofMembers
    [("type", .string "plugin_setup_required"), ("plugin", .string id),
      ("reason", availability.toJson), ("steps", Json.ofStrings steps)]

/-- The reply to a command whose plugin is not ready. -/
def reply (store : PluginStore) (command : Command) (id : String)
    (availability : Availability) : Reply :=
  let plugin := plugin? store command id
  let displayName := (plugin.map Plugin.displayName).getD id
  let guide :=
    (plugin.bind Plugin.setup).getD (defaultGuide displayName availability)
  { success := false
    message := some (displayName ++ " is " ++ availability.words)
    content := some (guideText guide displayName availability command)
    data := some (data id availability guide.steps)
    error := some (id ++ " is " ++ availability.words)
    mode := .markdown
    suggestions := Reply.fallbackSuggestions }

end ChatOps.Setup
