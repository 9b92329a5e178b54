import ChatOps.Command.Token
import ChatOps.Json.Printer
import ChatOps.Text.Quoted

/-!
# Templates

The commands that can be generated.  A template is text with named blanks, which
are filled with values as they are or as single tokens, and with text that is
there only if a named value is true.
-/

set_option autoImplicit false

namespace ChatOps

/-! ## Values in a template -/

/-- By itself a number is never written with an exponent. -/
def templateDoubleStyle : DoubleStyle := ⟨-400, 400, []⟩

/-- Inside a list or a map numbers from `1e-4` up to below `1e16` are written
positionally. -/
def nestedDoubleStyle : DoubleStyle := ⟨-4, 15, []⟩

def Numeral.textIn (style : DoubleStyle) : Numeral → String
  | .double value => String.ofList (style.write value)
  | other => String.ofList other.toChars

mutual

/-- A value inside a list or a map of a template. -/
def Json.nestedText : Json → String
  | .null => "None"
  | .bool true => "True"
  | .bool false => "False"
  | .number value => value.textIn nestedDoubleStyle
  | .string value => Text.quotedForDisplay value
  | .array items => "[" ++ Json.nestedItems items ++ "]"
  | .object members => "\x7b" ++ Json.nestedMembers members ++ "\x7d"

/-- Values with commas between them. -/
def Json.nestedItems : List Json → String
  | [] => ""
  | [item] => item.nestedText
  | item :: rest => item.nestedText ++ ", " ++ Json.nestedItems rest

/-- Members with commas between them. -/
def Json.nestedMembers : List (String × Json) → String
  | [] => ""
  | [(name, value)] => Text.quotedForDisplay name ++ ": " ++ value.nestedText
  | (name, value) :: rest =>
      Text.quotedForDisplay name ++ ": " ++ value.nestedText ++ ", " ++
        Json.nestedMembers rest

end

/-- The text of a value in a template; one that is missing has none. -/
def Json.templateText : Option Json → String
  | none => ""
  | some (.string text) => text
  | some (.number value) => value.textIn templateDoubleStyle
  | some other => other.nestedText

/-- Whether a number is not zero. -/
def Numeral.isNonzero : Numeral → Bool
  | .natural value => value != 0
  | .negative magnitude => magnitude != 0
  | .double value => !value.isZero

/-- Whether a value counts as true: it is there, and neither null, false, zero nor
empty. -/
def Json.isTrue : Option Json → Bool
  | none => false
  | some .null => false
  | some (.bool value) => value
  | some (.number value) => value.isNonzero
  | some (.string text) => !text.isEmpty
  | some (.array items) => !items.isEmpty
  | some (.object members) => !members.isEmpty

/-! ## Templates -/

/-- A piece of a template. -/
inductive TemplatePiece where
  | text (literal : String)
  | value (name : String)
  | token (name : String)
  | whenTrue (name literal : String)

/-- The text of a piece, with values from a look-up of names. -/
def TemplatePiece.render (values : String → Option Json) : TemplatePiece → String
  | .text literal => literal
  | .value name => Json.templateText (values name)
  | .token name => Token.write (Json.templateText (values name))
  | .whenTrue name literal => if Json.isTrue (values name) then literal else ""

/-- A command that can be generated. -/
inductive Template where
  | commit
  | push
  | pull
  | checkout
  | branch
  | issue
  | build
  | load
  | pocketSearch
  | docSearch
  deriving DecidableEq

namespace Template

def all : List Template :=
  [.commit, .push, .pull, .checkout, .branch, .issue, .build, .load, .pocketSearch,
    .docSearch]

/-- The key that selects a template. -/
def key : Template → String
  | .commit => "git:commit"
  | .push => "git:push"
  | .pull => "git:pull"
  | .checkout => "git:checkout"
  | .branch => "git:branch"
  | .issue => "jira:issue"
  | .build => "swdp:build"
  | .load => "pocket:load"
  | .pocketSearch => "pocket:search"
  | .docSearch => "doc:search"

/-- The template with exactly this key. -/
def ofKey? (key : String) : Option Template :=
  all.find? fun template => template.key == key

/-- The blanks behind the name of the command. -/
def arguments : Template → List TemplatePiece
  | .commit => [.text " -m ", .token "message"]
  | .push => [.text " origin ", .token "branch", .whenTrue "set_upstream" " --set-upstream"]
  | .pull => [.text " origin ", .token "branch", .whenTrue "set_upstream" " --set-upstream"]
  | .checkout => [.text " ", .token "branch"]
  | .branch => [.text " ", .token "name"]
  | .issue => [.text " ", .value "key"]
  | .build => [.text " --target=", .value "target", .whenTrue "watch" " --watch"]
  | .load => [.text " ", .token "repository"]
  | .pocketSearch => [.text " ", .token "repository"]
  | .docSearch => [.text " ", .token "query"]

def pieces (template : Template) : List TemplatePiece :=
  .text ("@" ++ template.key) :: template.arguments

/-- The template filled with values. -/
def render (template : Template) (values : String → Option Json) : String :=
  String.join (template.pieces.map (TemplatePiece.render values))

/-- The template filled with the members of an object. -/
def fill (template : Template) (values : Json) : String :=
  template.render fun name => values.member? name

end Template

end ChatOps
