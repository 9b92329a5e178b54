import ChatOps.Failure
import ChatOps.Text.Split

/-!
# Replies

What a user gets back from a command, however it ended, and how replies are kept
as JSON: absent parts are left out when written, and null counts as absent when
read.
-/

set_option autoImplicit false

namespace ChatOps

/-- How a reply is to be shown. -/
inductive DisplayMode where
  | text
  | markdown
  | json
  deriving DecidableEq

namespace DisplayMode

/-- Text with a number sign or a bold marker is taken for markdown. -/
def classify (text : String) : DisplayMode :=
  if text.toList.contains '#' || Text.occursIn ['*', '*'] text.toList then .markdown
  else .text

def name : DisplayMode → String
  | .text => "text"
  | .markdown => "markdown"
  | .json => "json"

def all : List DisplayMode := [.text, .markdown, .json]

def ofName? (name : String) : Option DisplayMode :=
  all.find? fun mode => mode.name == name

def toJson (mode : DisplayMode) : Json := .string mode.name

def ofJson? : Json → Option DisplayMode := Json.choice? ofName?

end DisplayMode

/-- The answer to a command. -/
structure Reply where
  success : Bool
  message : Option String
  content : Option String
  data : Option Json
  error : Option String
  mode : DisplayMode
  suggestions : List String

namespace Reply

/-- A reply with nothing but its outcome. -/
def bare (success : Bool) : Reply := ⟨success, none, none, none, none, .text, []⟩

/-- Success with a short summary. -/
def done (message : String) : Reply := { bare true with message := some message }

/-- Success with plain text. -/
def plain (content : String) : Reply := { bare true with content := some content }

/-- Success with markdown. -/
def markdown (content : String) : Reply :=
  { bare true with content := some content, mode := .markdown }

/-- Success with structured data. -/
def structured (data : Json) : Reply :=
  { bare true with data := some data, mode := .json }

/-- A failure with its description. -/
def failure (error : String) : Reply := { bare false with error := some error }

/-- The description that marks a cancelled execution. -/
def cancelledMark : String := "cancelled"

/-- The reply to an execution that was cancelled. -/
def cancelled : Reply :=
  { failure cancelledMark with message := some "Command execution was cancelled" }

/-- Whether a reply reports a cancellation. -/
def isCancelled (reply : Reply) : Bool :=
  !reply.success && reply.error == some cancelledMark

/-- What is offered where nothing better is known. -/
def fallbackSuggestions : List String := ["/help"]

/-- The reply to a failure.  An unknown command comes with its suggestions, and a
text that is no command points at the help. -/
def ofFailure (error : Failure) : Reply :=
  match error with
  | .cancelled => cancelled
  | .unknown _ suggestions => { failure error.message with suggestions := suggestions }
  | .rejected _ => { failure error.message with suggestions := fallbackSuggestions }
  | .execution _ => failure error.message
  | .unavailable _ _ => failure error.message

/-- The reply to a text that is no command, with the commands that it may have
been meant for. -/
def ofRejection (reason : Option Rejection) (suggestions : List String) : Reply :=
  { failure (reason.getD .notACommand).message with
    suggestions := if suggestions.isEmpty then fallbackSuggestions else suggestions }

/-! ## JSON -/

/-- A member for a part that is present. -/
def member {α : Type} (name : String) (write : α → Json) :
    Option α → List (String × Json)
  | some value => [(name, write value)]
  | none => []

def toJson (reply : Reply) : Json :=
  Json.ofMembers
    ([("success", .bool reply.success)] ++ member "message" .string reply.message ++
      member "content" .string reply.content ++ member "data" id reply.data ++
      member "error" .string reply.error ++ [("displayMode", reply.mode.toJson)] ++
      (if reply.suggestions.isEmpty then []
        else [("suggestedNextCommands", Json.ofStrings reply.suggestions)]))

def fields : List Json.Field :=
  [⟨"success", .required⟩, ⟨"message", .defaulted⟩, ⟨"content", .defaulted⟩,
    ⟨"data", .defaulted⟩, ⟨"error", .defaulted⟩, ⟨"displayMode", .defaulted⟩,
    ⟨"suggestedNextCommands", .defaulted⟩]

def ofJson? (json : Json) : Option Reply :=
  match json.fields? fields with
  | some [success, message, content, data, error, mode, suggestions] => do
      let success ← Json.given? Json.asBool? success
      let message ← Json.optional? Json.asString? message
      let content ← Json.optional? Json.asString? content
      let data ← Json.optional? some data
      let error ← Json.optional? Json.asString? error
      let mode ← Json.defaulted? .text DisplayMode.ofJson? mode
      let suggestions ← Json.defaulted? [] Json.asStrings? suggestions
      some ⟨success, message, content, data, error, mode, suggestions⟩
  | _ => none

end Reply

end ChatOps
