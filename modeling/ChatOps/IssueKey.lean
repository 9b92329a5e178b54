import ChatOps.Text.Blank
import ChatOps.Text.Digit
import ChatOps.Text.Split
import ChatOps.Text.WordChar

/-!
# Issue keys

An issue key is a capital letter, more capitals or digits, a hyphen and a number,
such as `PROJ-123`.  Keys are sought in branch names, in the answers of a language
model and in commit messages, and a commit message may present a key in several
places of which some say more clearly than others what it is.
-/

set_option autoImplicit false

namespace ChatOps.IssueKey

/-- Whether a character may stand in a key before the hyphen. -/
def isKeyChar (c : Char) : Bool := c.isUpper || c.isDigit

/-- Split a text into a key at its start, as long as possible, and the rest. -/
def atStart? (text : List Char) : Option (List Char × List Char) :=
  let project := text.takeWhile isKeyChar
  match text.dropWhile isKeyChar with
  | '-' :: behind =>
      let number := behind.takeWhile Text.isDecimalDigit
      let starts := (project.head?.map Char.isUpper).getD false
      if starts && decide (2 ≤ project.length) && !number.isEmpty then
        some (project ++ '-' :: number, behind.dropWhile Text.isDecimalDigit)
      else none
  | _ => none

/-- Whether no word character stands here. -/
def isEdge (neighbour : Option Char) : Bool :=
  !(neighbour.map Text.isWordChar).getD false

/-- Where a key may stand in a commit message, from the clearest to the least
clear place. -/
inductive Place where
  | bracketed
  | scope
  | parenthesized
  | leading
  | hash
  | bare
  deriving DecidableEq

namespace Place

def all : List Place := [.bracketed, .scope, .parenthesized, .leading, .hash, .bare]

/-- A key between two characters, the first of which starts the text. -/
def enclosed? (opening closing : Char) (text : List Char) :
    Option (List Char × List Char) :=
  match text with
  | c :: rest =>
      if c = opening then
        match atStart? rest with
        | some (key, after :: behind) =>
            if after = closing then some (key, behind) else none
        | _ => none
      else none
  | [] => none

/-- Whether a text goes on with a colon, perhaps after an exclamation mark. -/
def endsScope : List Char → Bool
  | ':' :: _ => true
  | '!' :: ':' :: _ => true
  | _ => false

/-- The key that stands in this place right here, behind the given character. -/
def keyHere? (place : Place) (previous : Option Char) (text : List Char) :
    Option (List Char) :=
  match place with
  | .bracketed => (enclosed? '[' ']' text).map Prod.fst
  | .parenthesized => (enclosed? '(' ')' text).map Prod.fst
  | .scope =>
      if previous.isNone && !(text.takeWhile Text.isWordChar).isEmpty then
        match enclosed? '(' ')' (text.dropWhile Text.isWordChar) with
        | some (key, behind) => if endsScope behind then some key else none
        | none => none
      else none
  | .leading =>
      if previous.isNone then
        match atStart? text with
        | some (key, ':' :: _) => some key
        | _ => none
      else none
  | .hash =>
      match text with
      | '#' :: rest =>
          match atStart? rest with
          | some (key, behind) => if isEdge behind.head? then some key else none
          | none => none
      | _ => none
  | .bare =>
      if isEdge previous then
        match atStart? text with
        | some (key, behind) => if isEdge behind.head? then some key else none
        | none => none
      else none

/-- The first key in this place, from here on. -/
def findFrom? (place : Place) (previous : Option Char) :
    List Char → Option (List Char)
  | [] => none
  | c :: rest =>
      match place.keyHere? previous (c :: rest) with
      | some key => some key
      | none => place.findFrom? (some c) rest

/-- The first key of a text in this place. -/
def find? (place : Place) (text : List Char) : Option (List Char) :=
  place.findFrom? none text

end Place

/-- The first key that stands by itself in a branch name or in a model's answer. -/
def ofText? (text : String) : Option String :=
  (Place.bare.find? text.toList).map String.ofList

/-- The key of the first message that has one in the clearest place possible. -/
def ofCommits? (commits : List String) : Option String :=
  Place.all.findSome? fun place =>
    commits.findSome? fun commit =>
      (place.find? (Text.trim commit.toList)).map String.ofList

/-- The question put to a language model. -/
def question (commits : List String) : String :=
  "Identify the issue tracker key (for example PROJ-123) these commits refer to. " ++
    "Reply with the key only, or NONE if there is none.\n\n" ++
    Text.join "\n" (commits.map fun commit => "- " ++ commit)

end ChatOps.IssueKey
