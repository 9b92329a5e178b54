import ChatOps.Text.Blank

/-!
# Points in time

An instant counts seconds from the start of 1970 in universal time, with
nanoseconds of that second; more than a second of nanoseconds stands for a leap
second.  Instants are written in RFC 3339 and read from a relaxed form of it.
-/

set_option autoImplicit false

namespace ChatOps

/-- A point in time. -/
structure Instant where
  seconds : Int
  nanos : Nat
  deriving DecidableEq

/-- A day of the proleptic Gregorian calendar. -/
structure CivilDate where
  year : Int
  month : Nat
  day : Nat
  deriving DecidableEq

namespace CivilDate

def isLeap (year : Int) : Bool :=
  (Int.emod year 4 == 0 && Int.emod year 100 != 0) || Int.emod year 400 == 0

def daysInMonth (year : Int) (month : Nat) : Nat :=
  if month = 2 then if isLeap year then 29 else 28
  else if month = 4 ∨ month = 6 ∨ month = 9 ∨ month = 11 then 30
  else 31

/-- The years that dates may have. -/
def leastYear : Int := -262143

def greatestYear : Int := 262142

def valid (date : CivilDate) : Bool :=
  decide (leastYear ≤ date.year ∧ date.year ≤ greatestYear ∧ 1 ≤ date.month ∧
    date.month ≤ 12 ∧ 1 ≤ date.day ∧ date.day ≤ daysInMonth date.year date.month)

/-- Days from the start of 1970, counting years from March. -/
def toDays (date : CivilDate) : Int :=
  let year := if date.month ≤ 2 then date.year - 1 else date.year
  let era := Int.fdiv year 400
  let yearOfEra := year - era * 400
  let monthFromMarch : Int := if 2 < date.month then date.month - 3 else date.month + 9
  let dayOfYear := Int.fdiv (153 * monthFromMarch + 2) 5 + date.day - 1
  let dayOfEra :=
    yearOfEra * 365 + Int.fdiv yearOfEra 4 - Int.fdiv yearOfEra 100 + dayOfYear
  era * 146097 + dayOfEra - 719468

/-- The day that lies so many days after the start of 1970. -/
def ofDays (days : Int) : CivilDate :=
  let shifted := days + 719468
  let era := Int.fdiv shifted 146097
  let dayOfEra := shifted - era * 146097
  let yearOfEra :=
    Int.fdiv
      (dayOfEra - Int.fdiv dayOfEra 1460 + Int.fdiv dayOfEra 36524 -
        Int.fdiv dayOfEra 146096) 365
  let dayOfYear :=
    dayOfEra - (365 * yearOfEra + Int.fdiv yearOfEra 4 - Int.fdiv yearOfEra 100)
  let monthFromMarch := Int.fdiv (5 * dayOfYear + 2) 153
  let day := dayOfYear - Int.fdiv (153 * monthFromMarch + 2) 5 + 1
  let month := if monthFromMarch < 10 then monthFromMarch + 3 else monthFromMarch - 9
  let year := yearOfEra + era * 400 + (if month ≤ 2 then 1 else 0)
  ⟨year, month.toNat, day.toNat⟩

end CivilDate

/-- A number in decimal with zeros in front up to a width. -/
def padded (width n : Nat) : List Char :=
  let digits := Nat.toDigits 10 n
  List.replicate (width - digits.length) '0' ++ digits

namespace Instant

def secondsPerDay : Int := 86400

def nanosPerSecond : Nat := 1000000000

def nanosPerMilli : Nat := 1000000

/-- The instant so many milliseconds after the start of 1970. -/
def ofMillis (millis : Int) : Instant :=
  ⟨Int.fdiv millis 1000, (Int.fmod millis 1000).toNat * nanosPerMilli⟩

/-- Whole milliseconds since the start of 1970. -/
def toMillis (instant : Instant) : Int :=
  instant.seconds * 1000 + ((instant.nanos / nanosPerMilli : Nat) : Int)

/-- Nanoseconds since the start of 1970. -/
def toNanos (instant : Instant) : Int :=
  instant.seconds * nanosPerSecond + instant.nanos

def date (instant : Instant) : CivilDate :=
  CivilDate.ofDays (Int.fdiv instant.seconds secondsPerDay)

/-- Month and day, two digits each. -/
def monthDay (instant : Instant) : List Char :=
  padded 2 instant.date.month ++ padded 2 instant.date.day

/-! ## Writing -/

/-- A year of four digits, or of more with its sign. -/
def yearChars (year : Int) : List Char :=
  if 0 ≤ year ∧ year ≤ 9999 then padded 4 year.toNat
  else (if year < 0 then '-' else '+') :: padded 4 year.natAbs

/-- The fraction of a second in three, six or nine digits, if there is one. -/
def fractionChars (nanos : Nat) : List Char :=
  if nanos = 0 then []
  else if nanos % 1000000 = 0 then '.' :: padded 3 (nanos / 1000000)
  else if nanos % 1000 = 0 then '.' :: padded 6 (nanos / 1000)
  else '.' :: padded 9 nanos

/-- The text of an instant in universal time. -/
def toChars (instant : Instant) : List Char :=
  let date := instant.date
  let secondOfDay := (Int.fmod instant.seconds secondsPerDay).toNat
  let leap := decide (nanosPerSecond ≤ instant.nanos)
  let second := secondOfDay % 60 + (if leap then 1 else 0)
  let nanos := if leap then instant.nanos - nanosPerSecond else instant.nanos
  yearChars date.year ++ ['-'] ++ padded 2 date.month ++ ['-'] ++
    padded 2 date.day ++ ['T'] ++ padded 2 (secondOfDay / 3600) ++ [':'] ++
    padded 2 (secondOfDay / 60 % 60) ++ [':'] ++ padded 2 second ++
    fractionChars nanos ++ ['Z']

def text (instant : Instant) : String := String.ofList instant.toChars

/-! ## Reading -/

/-- The greatest number of 64 signed bits. -/
def wordLimit : Nat := UInt64.size / 2

/-- A number of at least one digit and at most so many. -/
def readNumber? (width : Option Nat) (text : List Char) : Option (Nat × List Char) :=
  let run : List Char := text.takeWhile Char.isDigit
  let digits : List Char :=
    match width with
    | some most => run.take most
    | none => run
  let value : Nat := digits.foldl (fun sum c => sum * 10 + (c.toNat - '0'.toNat)) 0
  if digits.isEmpty ∨ wordLimit ≤ value then none
  else some (value, text.drop digits.length)

/-- A year, of any length if it has a sign. -/
def readYear? (text : List Char) : Option (Int × List Char) :=
  match Text.trimStart text with
  | '-' :: rest => (readNumber? none rest).map fun found => (-(found.1 : Int), found.2)
  | '+' :: rest => (readNumber? none rest).map fun found => ((found.1 : Int), found.2)
  | rest => (readNumber? (some 4) rest).map fun found => ((found.1 : Int), found.2)

/-- A number of one or two digits, after blanks. -/
def readPair? (text : List Char) : Option (Nat × List Char) :=
  readNumber? (some 2) (Text.trimStart text)

/-- A character, after blanks. -/
def readMark? (mark : Char) (text : List Char) : Option (List Char) :=
  match Text.trimStart text with
  | c :: rest => if c = mark then some rest else none
  | [] => none

/-- The nanoseconds of a fraction; digits behind the ninth are passed over. -/
def readFraction? : List Char → Option (Nat × List Char)
  | '.' :: rest => do
      let (value, after) ← readNumber? (some 9) rest
      let length := min 9 (rest.takeWhile Char.isDigit).length
      some (value * Nat.pow 10 (9 - length), after.dropWhile Char.isDigit)
  | text => some (0, text)

/-- Two digits side by side. -/
def readTwoDigits? : List Char → Option (Nat × Nat × List Char)
  | a :: b :: rest =>
      if a.isDigit && b.isDigit then
        some (a.toNat - '0'.toNat, b.toNat - '0'.toNat, rest)
      else none
  | _ => none

/-- The seconds by which a clock is ahead of universal time. -/
def readOffset? (text : List Char) : Option (Int × List Char) :=
  match text with
  | [] => none
  | c :: rest =>
      let universal := (text.take 3).map Char.toLower == ['u', 't', 'c']
      if universal then some (0, text.drop 3)
      else if c = 'Z' ∨ c = 'z' then some (0, rest)
      else if c = '+' ∨ c = '-' ∨ c = '\u2212' then do
        let (hourTens, hourOnes, afterHours) ← readTwoDigits? rest
        let unmarked := afterHours.dropWhile fun d => d == ':' || Text.isBlank d
        let (minuteTens, minuteOnes, after) ← readTwoDigits? unmarked
        if 5 < minuteTens then none
        let hours := hourTens * 10 + hourOnes
        let minutes := minuteTens * 10 + minuteOnes
        if 23 < hours then none
        let seconds : Int := (hours * 3600 + minutes * 60 : Nat)
        some (if c = '+' then seconds else -seconds, after)
      else none

/-- The instant that a text names; date and time are parted by `T` or a space, and
blanks may stand around the numbers.  The date has to be valid where the text was
written and in universal time. -/
def ofChars? (text : List Char) : Option Instant := do
  let (year, text) ← readYear? text
  let text ← readMark? '-' text
  let (month, text) ← readPair? text
  let text ← readMark? '-' text
  let (day, text) ← readPair? text
  let text ←
    match text with
    | c :: rest => if c = 'T' ∨ c = 't' ∨ c = ' ' then some rest else none
    | [] => none
  let (hour, text) ← readPair? text
  let text ← readMark? ':' text
  let (minute, text) ← readPair? text
  let text ← readMark? ':' text
  let (second, text) ← readPair? text
  let (nanos, text) ← readFraction? text
  let (offset, text) ← readOffset? (Text.trimStart text)
  if !(Text.trimStart text).isEmpty then none
  let date : CivilDate := ⟨year, month, day⟩
  if !date.valid ∨ 23 < hour ∨ 59 < minute ∨ 60 < second then none
  let leap := second = 60
  let shown := if leap then 59 else second
  let secondOfDay : Int := (hour * 3600 + minute * 60 + shown : Nat)
  let instant : Instant :=
    { seconds := date.toDays * secondsPerDay + secondOfDay - offset
      nanos := if leap then nanos + nanosPerSecond else nanos }
  if instant.date.valid then some instant else none

def ofText? (text : String) : Option Instant := ofChars? text.toList

end Instant

end ChatOps
