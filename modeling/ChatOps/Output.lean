import ChatOps.Json.Printer
import ChatOps.Reply

/-!
# Handler output

The shapes in which handlers return what they found, the reply that each shape
becomes, and the classification of untyped JSON into these shapes.
-/

set_option autoImplicit false

namespace ChatOps

/-- What a handler returns. -/
inductive Output where
  | empty
  | text (content : String)
  | markdown (content : String)
  | json (data : Json)
  | reply (reply : Reply)
  | legacy (content : String) (error : Option String)

namespace Output

/-- The reply that an output becomes.  An output in the old shape has succeeded
unless it brings an error, and is markdown if it looks like it. -/
def toReply : Output → Reply
  | .empty => .done "Command completed"
  | .text content => .plain content
  | .markdown content => .markdown content
  | .json data => .structured data
  | .reply finished => finished
  | .legacy content error =>
      { Reply.bare error.isNone with
        content := some content
        error := error
        mode := DisplayMode.classify content }

/-- The name of the shape. -/
def shape : Output → String
  | .empty => "empty"
  | .text _ => "text"
  | .markdown _ => "markdown"
  | .json _ => "json"
  | .reply _ => "result"
  | .legacy _ _ => "legacy"

/-- Plain text or markdown, by its looks. -/
def ofText (content : String) : Output :=
  match DisplayMode.classify content with
  | .markdown => .markdown content
  | _ => .text content

/-- A value as text: strings are themselves, all else is JSON text. -/
def plainText : Json → String
  | .string content => content
  | other => other.text

/-- The old shape's error: a message, or the content itself where the error is
just flagged. -/
def legacyError (content : String) : Option Json → Option String
  | some (.string message) => some message
  | some (.bool true) => some content
  | _ => none

/-- The output that an untyped value stands for.  An object with a boolean
`success` is a reply if it can be read as one, and one with `content` is of the
old shape. -/
def classify (json : Json) : Output :=
  match json with
  | .null => .empty
  | .string content => ofText content
  | .object members =>
      match SortedMap.find? "success" members with
      | some (.bool _) =>
          match Reply.ofJson? json with
          | some finished => .reply finished
          | none => .json json
      | _ =>
          match SortedMap.find? "content" members with
          | some value =>
              let content := plainText value
              .legacy content (legacyError content (SortedMap.find? "error" members))
          | none => .json json
  | _ => .json json

end Output

end ChatOps
