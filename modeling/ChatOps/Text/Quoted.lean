import ChatOps.Text.Printable

/-!
# Quoted text for display

Text between quotes in which everything can be seen: a character that is not
printable is written by its code point.
-/

set_option autoImplicit false

namespace ChatOps.Text

/-- A character by its code point in hexadecimal. -/
def codePoint (c : Char) : List Char :=
  ['\\', 'u', '{'] ++ Nat.toDigits 16 c.toNat ++ ['}']

/-- A character between quotes. -/
def displayed (c : Char) : List Char :=
  if c = '"' then ['\\', '"']
  else if c = '\\' then ['\\', '\\']
  else if c = '\n' then ['\\', 'n']
  else if c = '\r' then ['\\', 'r']
  else if c = '\t' then ['\\', 't']
  else if c = '\x00' then ['\\', '0']
  else if isPrintable c then [c]
  else codePoint c

/-- A text between quotes. -/
def quotedForDisplay (text : String) : String :=
  String.ofList ('"' :: text.toList.flatMap displayed ++ ['"'])

end ChatOps.Text
