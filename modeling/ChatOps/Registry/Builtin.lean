import ChatOps.Registry.Tables

/-!
# Built-in commands

The help, which lists the usage notes of the tables, the choice of a language
model, and a count of what is registered.
-/

set_option autoImplicit false

namespace ChatOps

/-- The language models on offer and the one in use. -/
structure ModelChoice where
  available : List String
  current : Option String
  deriving DecidableEq

namespace ModelChoice

/-- What is said of a model that is not on offer. -/
def unknownReason (choice : ModelChoice) (model : String) : String :=
  "unknown model '" ++ model ++ "'; available: " ++ Text.join ", " choice.available

/-- The line of a model in the list of models. -/
def line (choice : ModelChoice) (model : String) : String :=
  "- " ++ model ++ (if choice.current = some model then " (current)" else "") ++ "\n"

/-- The list of models. -/
def listing (choice : ModelChoice) : String :=
  "## Available models\n" ++ String.join (choice.available.map choice.line)

/-- What is said of the model in use. -/
def status (choice : ModelChoice) : String :=
  match choice.current with
  | some model => "Current model: " ++ model
  | none => "No model is selected"

end ModelChoice

namespace Builtin

/-- The line of a usage note in the help. -/
def helpLine (usage : Usage) : String :=
  if usage.description.isEmpty then "- \x60" ++ usage.syntaxLine ++ "\x60\n"
  else "- \x60" ++ usage.syntaxLine ++ "\x60: " ++ usage.description ++ "\n"

/-- The help on these usage notes. -/
def helpText (heading : String) (usages : List Usage) : String :=
  heading ++ "\n" ++
    (if usages.isEmpty then "\nNo commands are registered.\n" else "") ++
    String.join (usages.map helpLine)

/-- The reply of the help. -/
def helpReply (heading : String) (usages : List Usage) : Reply :=
  { Reply.done (helpText heading usages) with
    mode := .markdown
    data := some (Json.ofMembers [("commands", Json.ofNat usages.length)]) }

/-- A summary with the model that it is about. -/
def modelReply (message : String) (name : Option String) : Reply :=
  { Reply.done message with
    data := some (Json.ofMembers [("model", Json.ofOption .string name)]) }

/-- Show the model in use, or use another one. -/
def runModel (choice : ModelChoice) (requested : Option String) :
    ModelChoice × HandlerOutcome :=
  match requested with
  | none => (choice, .ok (.reply (modelReply choice.status choice.current)))
  | some name =>
      if choice.available.contains name then
        ({ choice with current := some name },
          .ok (.reply (modelReply ("Switched model to " ++ name) (some name))))
      else (choice, .error (.invalidArguments (choice.unknownReason name)))

/-- Counts of what is registered. -/
def diagnostics (tables : Tables) (choice : ModelChoice) : Json :=
  Json.ofMembers
    [("agents", Json.ofStrings tables.agents),
      ("domains", .array (tables.domains.map Domain.toJson)),
      ("handlers", Json.ofNat tables.handlerCount),
      ("usages", Json.ofNat tables.allUsages.length),
      ("model", Json.ofOption .string choice.current)]

/-- Run a built-in command.  Only the command for models changes anything, and that
is the model in use. -/
def run (command : Builtin) (tables : Tables) (choice : ModelChoice)
    (invocation : Invocation) : ModelChoice × HandlerOutcome :=
  match command with
  | .help =>
      (choice, .ok (.reply (helpReply "## Available commands" tables.allUsages)))
  | .addressedHelp =>
      let addressed := tables.allUsages.filter fun usage => !usage.address.isCore
      (choice, .ok (.reply (helpReply "## @ commands" addressed)))
  | .model => runModel choice invocation.firstArg?
  | .models => (choice, .ok (.markdown choice.listing))
  | .debug => (choice, .ok (.json (diagnostics tables choice)))

end Builtin

end ChatOps
