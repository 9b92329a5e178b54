import ChatOps.Json.Reader
import ChatOps.Text.Split

/-!
# Arguments

The tokens behind a command's name are flags, options and positional arguments.
`Token.shape` tells them apart, `itemsOf` lets a short flag take the token behind
it, and `Arguments.ofItems` sorts them into a list and two maps.
-/

set_option autoImplicit false

namespace ChatOps

open ChatOps.Number

/-! ## Values -/

/-- A number written without exponent. -/
structure PlainNumber where
  negative : Bool
  whole : List Char
  fraction : List Char
  deriving DecidableEq

namespace PlainNumber

/-- The number that a text spells: an optional minus sign, digits, and perhaps a
point with more digits. -/
def ofChars? (text : List Char) : Option PlainNumber :=
  let (negative, unsigned) :=
    match text with
    | '-' :: rest => (true, rest)
    | _ => (false, text)
  let (whole, behind) := spanDigits unsigned
  if whole.isEmpty then none
  else
    match behind with
    | [] => some ⟨negative, whole, []⟩
    | '.' :: rest =>
        let (fraction, after) := spanDigits rest
        if fraction.isEmpty || !after.isEmpty then none
        else some ⟨negative, whole, fraction⟩
    | _ => none

/-- The number as a signed integer of 64 bits, if it is one. -/
def toInteger? (number : PlainNumber) : Option Numeral :=
  let value := Text.digitsValue number.whole
  if !number.fraction.isEmpty then none
  else if number.negative then
    if negativeLimit < value then none else some (Numeral.ofInt (-(value : Int)))
  else if value < negativeLimit then some (.natural value)
  else none

/-- The nearest floating-point number, if it is in range. -/
def toDouble? (number : PlainNumber) : Option Numeral :=
  (Binary64.ofDecimal? number.negative
    (Text.digitsValue (number.whole ++ number.fraction))
    (-(number.fraction.length : Int))).map Numeral.double

/-- An integer if possible, else a floating-point number. -/
def toNumeral? (number : PlainNumber) : Option Numeral :=
  number.toInteger? <|> number.toDouble?

end PlainNumber

/-- Whether a text is spelt as a plain number, of any size. -/
def isNumeric (text : List Char) : Bool := (PlainNumber.ofChars? text).isSome

/-- Whether a text begins and ends like a JSON object or array. -/
def isBracketed (text : List Char) : Bool :=
  (text.head? == some '{' && text.getLast? == some '}') ||
    (text.head? == some '[' && text.getLast? == some ']')

/-- The value of an argument: a boolean, a plain number, a JSON object or array,
or else the text itself. -/
def inferValue (raw : String) : Json :=
  let text := raw.toList
  if raw = "true" then .bool true
  else if raw = "false" then .bool false
  else
    match (PlainNumber.ofChars? text).bind PlainNumber.toNumeral? with
    | some numeral => .number numeral
    | none =>
        if isBracketed text then (Json.ofChars? text).getD (.string raw)
        else .string raw

/-! ## Shapes of tokens -/

/-- What a token is by its looks. -/
inductive Shape where
  | long (key : String) (value : Option String)
  | short (key : String)
  | option (key value : String)
  | positional
  deriving DecidableEq

/-- Letters and digits of ASCII, dashes and underscores. -/
def isIdentifierChar (c : Char) : Bool := c.isAlphanum || c == '-' || c == '_'

def isIdentifier (text : List Char) : Bool :=
  !text.isEmpty && text.all isIdentifierChar

/-- Whether a token starts with a dash. -/
def isDashed (token : String) : Bool := token.toList.head? == some '-'

/-- A token behind two dashes: `key=value` or a bare key. -/
def longShape (text : List Char) : Shape :=
  match Text.cut? '=' text with
  | some (key, value) =>
      if key.isEmpty then .positional
      else .long (String.ofList key) (some (String.ofList value))
  | none => if text.isEmpty then .positional else .long (String.ofList text) none

/-- A token without a dash: an option if an identifier stands before `=`. -/
def plainShape (text : List Char) : Shape :=
  match Text.cut? '=' text with
  | some (key, value) =>
      if isIdentifier key then .option (String.ofList key) (String.ofList value)
      else .positional
  | none => .positional

/-- The shape of a token.  Two dashes make a long flag, one dash a short flag
unless the token is a negative number. -/
def Shape.ofChars (text : List Char) : Shape :=
  match text with
  | '-' :: '-' :: name => longShape name
  | '-' :: name =>
      if name.isEmpty || isNumeric text then .positional
      else .short (String.ofList name)
  | _ => plainShape text

def Shape.ofToken (token : String) : Shape := ofChars token.toList

/-! ## Sorting -/

/-- One argument. -/
inductive Item where
  | positional (value : Json)
  | flag (key : String) (value : Json)
  | option (key : String) (value : Json)

/-- The arguments in a list of tokens.  A short flag takes the next token as its
value unless that starts with a dash. -/
def itemsOf : List String → List Item
  | [] => []
  | token :: rest =>
      match Shape.ofToken token with
      | .long key value =>
          .flag key ((value.map inferValue).getD (.bool true)) :: itemsOf rest
      | .short key =>
          match rest with
          | [] => [.flag key (.bool true)]
          | next :: after =>
              if isDashed next then .flag key (.bool true) :: itemsOf (next :: after)
              else .flag key (inferValue next) :: itemsOf after
      | .option key value => .option key (inferValue value) :: itemsOf rest
      | .positional => .positional (inferValue token) :: itemsOf rest

/-- Positional arguments in order, and flags and options by key. -/
structure Arguments where
  args : List Json
  flags : JsonMap
  options : JsonMap

namespace Arguments

def none : Arguments := ⟨[], .empty, .empty⟩

/-- One more argument; a later flag or option with the same key wins. -/
def add (arguments : Arguments) : Item → Arguments
  | .positional value => { arguments with args := arguments.args ++ [value] }
  | .flag key value => { arguments with flags := arguments.flags.insert key value }
  | .option key value =>
      { arguments with options := arguments.options.insert key value }

def ofItems (items : List Item) : Arguments := items.foldl add none

/-- The arguments in a list of tokens. -/
def ofTokens (tokens : List String) : Arguments := ofItems (itemsOf tokens)

end Arguments

end ChatOps
