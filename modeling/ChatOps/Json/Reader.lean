import ChatOps.Json.Value
import ChatOps.Text.Digit

/-!
# Reading JSON

A text is cut into lexemes and the lexemes are put together on a stack of open
arrays and objects.  Both passes take one step for each character or lexeme and
stop at the first that does not fit.
-/

set_option autoImplicit false

namespace ChatOps

open ChatOps.Number

/-! ## Numbers -/

/-- A power of ten as a floating-point number. -/
def Number.powerOfTen? (power : Nat) : Option Binary64 :=
  Binary64.ofDecimal? false 1 power

/-- The greatest power of ten in range. -/
def Number.greatestPower : Nat := 308

/-- A floating-point number times a power of ten, by one rounded multiplication
or division; a power out of range is taken in steps of the greatest one. -/
def Number.scaleByTen? (x : Binary64) (power : Int) : Nat → Option Binary64
  | 0 => if x.isZero then some x else none
  | steps + 1 =>
      if power.natAbs ≤ greatestPower then do
        let factor ← powerOfTen? power.natAbs
        if 0 ≤ power then x.mul? factor else x.div? factor
      else if x.isZero then some x
      else if 0 ≤ power then none
      else do
        let factor ← powerOfTen? greatestPower
        let smaller ← x.div? factor
        scaleByTen? smaller (power + greatestPower) steps

/-- The limit of natural numbers. -/
def naturalLimit : Nat := UInt64.size

/-- The limit of the magnitudes of negative integers, which is one of them. -/
def negativeLimit : Nat := UInt64.size / 2

/-- The leading digits that fit a word, and the number of digits left over. -/
def leadingDigits (start : Nat) : List Char → Nat × Nat
  | [] => (start, 0)
  | c :: rest =>
      let longer := start * 10 + Text.digitValue c
      if longer < naturalLimit then leadingDigits longer rest
      else (start, rest.length + 1)

/-- The parts of a number: sign, digits before and behind the point, exponent. -/
structure NumeralParts where
  negative : Bool
  whole : List Char
  fraction : Option (List Char)
  exponent : Option (Bool × List Char)

/-- Digits up to the first other character. -/
def spanDigits (text : List Char) : List Char × List Char :=
  text.span Char.isDigit

/-- Split a number into its parts. -/
def NumeralParts.ofChars? (text : List Char) : Option NumeralParts := do
  let (negative, unsigned) :=
    match text with
    | '-' :: rest => (true, rest)
    | _ => (false, text)
  let (whole, afterWhole) := spanDigits unsigned
  if whole.isEmpty then none
  if whole.head? = some '0' ∧ 1 < whole.length then none
  let (fraction, afterFraction) ←
    match afterWhole with
    | '.' :: rest =>
        let (digits, after) := spanDigits rest
        if digits.isEmpty then none else some (some digits, after)
    | _ => some (none, afterWhole)
  let exponent ←
    match afterFraction with
    | [] => some none
    | mark :: rest =>
        if mark = 'e' ∨ mark = 'E' then
          let (downward, unsignedRest) :=
            match rest with
            | '-' :: digits => (true, digits)
            | '+' :: digits => (false, digits)
            | _ => (false, rest)
          let (digits, after) := spanDigits unsignedRest
          if digits.isEmpty ∨ !after.isEmpty then none
          else some (some (downward, digits))
        else none
  some ⟨negative, whole, fraction, exponent⟩

/-- The limit of exponents that are written out. -/
def exponentLimit : Nat := UInt32.size / 2

/-- The value of a floating-point number: its leading digits as a word, rounded,
and then scaled by ten. -/
def NumeralParts.toDouble? (parts : NumeralParts) : Option Binary64 := do
  let (leading, leftOver) := leadingDigits 0 parts.whole
  let (digits, dropped) :=
    match parts.fraction with
    | some fraction =>
        let (longer, unread) := leadingDigits leading fraction
        (longer, (leftOver : Int) + unread - fraction.length)
    | none => (leading, (leftOver : Int))
  let written := (parts.exponent.map fun sign => Text.digitsValue sign.2).getD 0
  let downward := (parts.exponent.map Prod.fst).getD false
  let unsigned ←
    if exponentLimit ≤ written then
      if digits ≠ 0 ∧ !downward then none else some (Binary64.zero false)
    else do
      let power : Int := if downward then dropped - written else dropped + written
      let start ← Binary64.ofNat? digits
      scaleByTen? start power 4
  some { unsigned with negative := parts.negative }

/-- The number that a text denotes: an integer where it is written without
fraction and exponent and fits, and otherwise a floating-point number. -/
def Numeral.ofChars? (text : List Char) : Option Numeral := do
  let parts ← NumeralParts.ofChars? text
  let integer :=
    if parts.fraction.isNone && parts.exponent.isNone then
      let (value, leftOver) := leadingDigits 0 parts.whole
      if leftOver ≠ 0 then none
      else if !parts.negative then some (Numeral.natural value)
      else if value = 0 then none
      else if value ≤ negativeLimit then some (Numeral.negative value)
      else none
    else none
  match integer with
  | some numeral => some numeral
  | none => parts.toDouble?.map Numeral.double

/-! ## Lexemes -/

/-- The smallest pieces of JSON text. -/
inductive Lexeme where
  | openArray
  | closeArray
  | openObject
  | closeObject
  | comma
  | colon
  | value (json : Json)

/-- What is being read: the characters so far are in reverse order.  An escape of
a high surrogate waits for that of a low one. -/
inductive LexMode where
  | between
  | word (sofar : List Char)
  | number (sofar : List Char)
  | text (sofar : List Char)
  | escape (sofar : List Char)
  | code (sofar : List Char) (high : Option Nat) (value : Nat) (missing : Nat)
  | awaitEscape (sofar : List Char) (high : Nat)
  | awaitCode (sofar : List Char) (high : Nat)

/-- The lexemes so far in reverse order, and what is being read. -/
structure LexState where
  found : List Lexeme
  mode : LexMode

def LexState.start : LexState := ⟨[], .between⟩

/-- The blanks of JSON. -/
def Json.isSpace (c : Char) : Bool :=
  c == ' ' || c == '\n' || c == '\r' || c == '\t'

def Json.isNumberChar (c : Char) : Bool :=
  c.isDigit || c == '-' || c == '+' || c == '.' || c == 'e' || c == 'E'

/-- The value of a word. -/
def Json.ofWord? (word : List Char) : Option Json :=
  if word = ['n', 'u', 'l', 'l'] then some .null
  else if word = ['t', 'r', 'u', 'e'] then some (.bool true)
  else if word = ['f', 'a', 'l', 's', 'e'] then some (.bool false)
  else none

/-- The character that an escape letter stands for. -/
def Json.unescape? (c : Char) : Option Char :=
  if c = '"' ∨ c = '\\' ∨ c = '/' then some c
  else if c = 'b' then some '\x08'
  else if c = 'f' then some '\x0c'
  else if c = 'n' then some '\n'
  else if c = 'r' then some '\r'
  else if c = 't' then some '\t'
  else none

/-- Finish a word or number that the next character cannot belong to. -/
def LexState.close? (state : LexState) : Option LexState :=
  match state.mode with
  | .between => some state
  | .word sofar => do
      let json ← Json.ofWord? sofar.reverse
      some ⟨.value json :: state.found, .between⟩
  | .number sofar => do
      let numeral ← Numeral.ofChars? sofar.reverse
      some ⟨.value (.number numeral) :: state.found, .between⟩
  | _ => none

/-- A character between lexemes. -/
def LexState.open? (state : LexState) (c : Char) : Option LexState :=
  let add (lexeme : Lexeme) : Option LexState :=
    some ⟨lexeme :: state.found, .between⟩
  if Json.isSpace c then some state
  else if c = '[' then add .openArray
  else if c = ']' then add .closeArray
  else if c = '\x7b' then add .openObject
  else if c = '\x7d' then add .closeObject
  else if c = ',' then add .comma
  else if c = ':' then add .colon
  else if c = '"' then some ⟨state.found, .text []⟩
  else if c = '-' ∨ c.isDigit then some ⟨state.found, .number [c]⟩
  else if c.isLower then some ⟨state.found, .word [c]⟩
  else none

def isHighSurrogate (value : Nat) : Bool := 0xD800 ≤ value && value < 0xDC00

def isLowSurrogate (value : Nat) : Bool := 0xDC00 ≤ value && value < 0xE000

/-- The state after the four digits of an escaped code unit. -/
def LexState.endCode? (state : LexState) (sofar : List Char) (high : Option Nat)
    (value : Nat) : Option LexState :=
  match high with
  | some upper =>
      if isLowSurrogate value then
        let code := 0x10000 + (upper - 0xD800) * 0x400 + (value - 0xDC00)
        some ⟨state.found, .text (Char.ofNat code :: sofar)⟩
      else none
  | none =>
      if isHighSurrogate value then some ⟨state.found, .awaitEscape sofar value⟩
      else if isLowSurrogate value then none
      else some ⟨state.found, .text (Char.ofNat value :: sofar)⟩

/-- One character. -/
def LexState.step (state : LexState) (c : Char) : Option LexState :=
  match state.mode with
  | .between => state.open? c
  | .word sofar =>
      if c.isAlpha then some ⟨state.found, .word (c :: sofar)⟩
      else do
        let closed ← state.close?
        closed.open? c
  | .number sofar =>
      if Json.isNumberChar c then some ⟨state.found, .number (c :: sofar)⟩
      else do
        let closed ← state.close?
        closed.open? c
  | .text sofar =>
      if c = '"' then
        some ⟨.value (.string (String.ofList sofar.reverse)) :: state.found,
          .between⟩
      else if c = '\\' then some ⟨state.found, .escape sofar⟩
      else if c.toNat < 0x20 then none
      else some ⟨state.found, .text (c :: sofar)⟩
  | .escape sofar =>
      if c = 'u' then some ⟨state.found, .code sofar none 0 4⟩
      else do
        let meant ← Json.unescape? c
        some ⟨state.found, .text (meant :: sofar)⟩
  | .code sofar high value missing => do
      let digit ← Text.hexValue? c
      let longer := value * 16 + digit
      if missing ≤ 1 then state.endCode? sofar high longer
      else some ⟨state.found, .code sofar high longer (missing - 1)⟩
  | .awaitEscape sofar high =>
      if c = '\\' then some ⟨state.found, .awaitCode sofar high⟩ else none
  | .awaitCode sofar high =>
      if c = 'u' then some ⟨state.found, .code sofar (some high) 0 4⟩ else none

/-- The lexemes of a text. -/
def Lexeme.ofChars? (text : List Char) : Option (List Lexeme) := do
  let state ← text.foldlM LexState.step LexState.start
  let closed ← state.close?
  some closed.found.reverse

/-! ## Values -/

/-- An array or object that is still open. -/
inductive OpenValue where
  | array (reversed : List Json)
  | object (members : JsonMap) (name : String)

/-- What may come next. -/
inductive Expected where
  | value
  | valueOrClose
  | name
  | nameOrClose
  | colon
  | commaOrClose
  | nothing (result : Json)

/-- The open arrays and objects, innermost first, and what may come next. -/
structure BuildState where
  opened : List OpenValue
  expected : Expected

def BuildState.start : BuildState := ⟨[], .value⟩

/-- The greatest number of arrays and objects open at a time. -/
def Json.depthLimit : Nat := 127

/-- A complete value goes into the innermost open array or object. -/
def BuildState.deliver (opened : List OpenValue) (json : Json) : BuildState :=
  match opened with
  | [] => ⟨[], .nothing json⟩
  | .array reversed :: outer => ⟨.array (json :: reversed) :: outer, .commaOrClose⟩
  | .object members name :: outer =>
      ⟨.object (members.insert name json) name :: outer, .commaOrClose⟩

/-- Open an array or object within the depth limit. -/
def BuildState.nest? (opened : List OpenValue) (value : OpenValue)
    (expected : Expected) : Option BuildState :=
  if opened.length < Json.depthLimit then some ⟨value :: opened, expected⟩ else none

/-- One lexeme. -/
def BuildState.step (state : BuildState) (lexeme : Lexeme) : Option BuildState :=
  match state.expected, lexeme with
  | .value, .value json => some (deliver state.opened json)
  | .valueOrClose, .value json => some (deliver state.opened json)
  | .value, .openArray => nest? state.opened (.array []) .valueOrClose
  | .valueOrClose, .openArray => nest? state.opened (.array []) .valueOrClose
  | .value, .openObject => nest? state.opened (.object .empty "") .nameOrClose
  | .valueOrClose, .openObject =>
      nest? state.opened (.object .empty "") .nameOrClose
  | .valueOrClose, .closeArray =>
      match state.opened with
      | .array _ :: outer => some (deliver outer (.array []))
      | _ => none
  | .name, .value (.string name) =>
      match state.opened with
      | .object members _ :: outer => some ⟨.object members name :: outer, .colon⟩
      | _ => none
  | .nameOrClose, .value (.string name) =>
      match state.opened with
      | .object members _ :: outer => some ⟨.object members name :: outer, .colon⟩
      | _ => none
  | .nameOrClose, .closeObject =>
      match state.opened with
      | .object members _ :: outer => some (deliver outer (Json.ofMap members))
      | _ => none
  | .colon, .colon => some ⟨state.opened, .value⟩
  | .commaOrClose, .comma =>
      match state.opened with
      | .array _ :: _ => some ⟨state.opened, .value⟩
      | .object _ _ :: _ => some ⟨state.opened, .name⟩
      | [] => none
  | .commaOrClose, .closeArray =>
      match state.opened with
      | .array reversed :: outer => some (deliver outer (.array reversed.reverse))
      | _ => none
  | .commaOrClose, .closeObject =>
      match state.opened with
      | .object members _ :: outer => some (deliver outer (Json.ofMap members))
      | _ => none
  | _, _ => none

/-- The value that a text denotes. -/
def Json.ofChars? (text : List Char) : Option Json := do
  let lexemes ← Lexeme.ofChars? text
  let state ← lexemes.foldlM BuildState.step BuildState.start
  match state.expected with
  | .nothing json => some json
  | _ => none

/-- The value that a string denotes. -/
def Json.ofText? (text : String) : Option Json := Json.ofChars? text.toList

end ChatOps
