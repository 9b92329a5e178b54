import ChatOps.Json.Value
import ChatOps.Number.Shortest

/-!
# Writing JSON

Compact JSON text: no spaces, members in their order, and in strings only quotes,
backslashes and control characters escaped.  A floating-point number is written
with its shortest digits, positionally while its first digit stands at most
fifteen places before or five places behind the point.
-/

set_option autoImplicit false

namespace ChatOps

open ChatOps.Number

/-- How floating-point numbers are written: the exponents that are written
positionally, and what stands in front of other exponents above zero. -/
structure DoubleStyle where
  leastPositional : Int
  greatestPositional : Int
  plus : List Char

/-- Numbers from `1e-5` up to below `1e16` are written positionally. -/
def Json.doubleStyle : DoubleStyle := ⟨-5, 15, ['+']⟩

/-- The decimal digits of a natural number. -/
def decimalDigits (n : Nat) : List Char := Nat.toDigits 10 n

/-- Digits with the point behind the first `whole` of them, which may be none or
more than there are; a fraction is always written. -/
def positional (digits : List Char) (whole : Int) : List Char :=
  if whole ≤ 0 then
    ['0', '.'] ++ List.replicate (-whole).toNat '0' ++ digits
  else if digits.length ≤ whole.toNat then
    digits ++ List.replicate (whole.toNat - digits.length) '0' ++ ['.', '0']
  else
    digits.take whole.toNat ++ ['.'] ++ digits.drop whole.toNat

/-- Digits with the point behind the first and an exponent. -/
def scientific (plus digits : List Char) (exponent : Int) : List Char :=
  let fraction := digits.drop 1
  digits.take 1 ++ (if fraction.isEmpty then [] else '.' :: fraction) ++
    'e' :: (if exponent < 0 then ['-'] else plus) ++ decimalDigits exponent.natAbs

/-- The text of a floating-point number. -/
def DoubleStyle.write (style : DoubleStyle) (x : Binary64) : List Char :=
  let decimal := x.shortest
  let digits := decimalDigits decimal.digits
  let exponent : Int := decimal.power + digits.length - 1
  let unsigned :=
    if style.leastPositional ≤ exponent ∧ exponent ≤ style.greatestPositional then
      positional digits (exponent + 1)
    else scientific style.plus digits exponent
  if x.negative then '-' :: unsigned else unsigned

/-- The text of a number. -/
def Numeral.toChars : Numeral → List Char
  | .natural value => decimalDigits value
  | .negative magnitude => '-' :: decimalDigits magnitude
  | .double value => Json.doubleStyle.write value

/-- A hexadecimal digit in lower case. -/
def hexDigit (n : Nat) : Char := Nat.digitChar n

/-- A character inside a quoted string. -/
def Json.escape (c : Char) : List Char :=
  if c = '"' then ['\\', '"']
  else if c = '\\' then ['\\', '\\']
  else if c = '\n' then ['\\', 'n']
  else if c = '\r' then ['\\', 'r']
  else if c = '\t' then ['\\', 't']
  else if c = '\x08' then ['\\', 'b']
  else if c = '\x0c' then ['\\', 'f']
  else if c.toNat < 0x20 then
    ['\\', 'u', '0', '0', hexDigit (c.toNat / 16), hexDigit (c.toNat % 16)]
  else [c]

/-- A quoted string. -/
def Json.quoted (text : String) : List Char :=
  '"' :: text.toList.flatMap Json.escape ++ ['"']

mutual

/-- The text of a value. -/
def Json.toChars : Json → List Char
  | .null => ['n', 'u', 'l', 'l']
  | .bool true => ['t', 'r', 'u', 'e']
  | .bool false => ['f', 'a', 'l', 's', 'e']
  | .number value => value.toChars
  | .string value => Json.quoted value
  | .array items => '[' :: Json.itemsToChars items ++ [']']
  | .object members => '{' :: Json.membersToChars members ++ ['}']

/-- Values with commas between them. -/
def Json.itemsToChars : List Json → List Char
  | [] => []
  | [item] => item.toChars
  | item :: rest => item.toChars ++ ',' :: Json.itemsToChars rest

/-- Members with commas between them. -/
def Json.membersToChars : List (String × Json) → List Char
  | [] => []
  | [(name, value)] => Json.quoted name ++ ':' :: value.toChars
  | (name, value) :: rest =>
      Json.quoted name ++ ':' :: value.toChars ++ ',' :: Json.membersToChars rest

end

/-- The text of a value as a string. -/
def Json.text (json : Json) : String := String.ofList json.toChars

end ChatOps
