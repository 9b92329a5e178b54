import ChatOps.Text.Blank

/-!
# Tokens

A line of text is a sequence of tokens with blanks between them.  A backslash
stands for the character behind it, and a run between quotes may hold blanks.
`split` reads a line, and `write` writes a text as a single token.
-/

set_option autoImplicit false

namespace ChatOps.Token

/-- The characters that open and close a quoted run. -/
def isQuote (c : Char) : Bool := c == '"' || c == '\''

/-- The tokens in the rest of a line.  `current` is the rest of the token that
the line is in the middle of, if there is one. -/
structure Scan where
  current : Option (List Char)
  later : List (List Char)

namespace Scan

/-- Nothing is left. -/
def finished : Scan := ⟨none, []⟩

/-- A character in front of the current token. -/
def push (c : Char) (scan : Scan) : Scan :=
  { scan with current := some (c :: scan.current.getD []) }

/-- The current token begins at the latest here, even if it has no characters. -/
def start (scan : Scan) : Scan :=
  { scan with current := some (scan.current.getD []) }

/-- The tokens in order. -/
def tokens (scan : Scan) : List (List Char) := scan.current.toList ++ scan.later

/-- A blank in front: what was the current token comes later. -/
def separate (scan : Scan) : Scan := ⟨none, scan.tokens⟩

end Scan

/-- Scan a line from inside the given quotes, or from outside of all quotes.  A
quote that is never closed takes in the rest of the line, and a backslash at the
end stands for itself. -/
def scan : Option Char → List Char → Scan
  | _, [] => .finished
  | quote, c :: rest =>
      if c = '\\' then
        match rest with
        | [] => Scan.finished.push '\\'
        | escaped :: after => (scan quote after).push escaped
      else
        match quote with
        | some closing =>
            if c = closing then scan none rest else (scan quote rest).push c
        | none =>
            if isQuote c then (scan (some c) rest).start
            else if Text.isBlank c then (scan none rest).separate
            else (scan none rest).push c

/-- The tokens of a line. -/
def split (line : String) : List String :=
  (scan none line.toList).tokens.map String.ofList

/-! ## Writing -/

/-- Whether a text has to be quoted to be read as one token. -/
def needsQuotes (text : List Char) : Bool :=
  text.isEmpty || text.any fun c => Text.isBlank c || isQuote c || c == '\\'

/-- A character inside double quotes. -/
def escape (c : Char) : List Char :=
  if c = '"' ∨ c = '\\' then ['\\', c] else [c]

/-- A text as a token. -/
def writeChars (text : List Char) : List Char :=
  if needsQuotes text then '"' :: text.flatMap escape ++ ['"'] else text

/-- A string as a token. -/
def write (text : String) : String := String.ofList (writeChars text.toList)

end ChatOps.Token
