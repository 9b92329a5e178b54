import ChatOps.Address
import ChatOps.Number.Binary64
import ChatOps.Text.EditDistance
import ChatOps.Text.Split

/-!
# Misspelt commands

Commands of the tables that resemble a text which is no command.  Resemblance is
the share of a text that need not be edited, as an exact ratio; at most three
commands are offered, the most alike first.
-/

set_option autoImplicit false

namespace ChatOps

/-- How much two texts are alike: of `longest` characters `kept` are not edited. -/
structure Likeness where
  kept : Nat
  longest : Nat

namespace Likeness

/-- Nothing to edit. -/
def full : Likeness := ⟨1, 1⟩

/-- The likeness of two texts; two empty texts are fully alike. -/
def of (left right : String) : Likeness :=
  let longest := max left.toList.length right.toList.length
  if longest = 0 then full
  else ⟨longest - Text.editDistance left right, longest⟩

/-- Whether more than three fifths are kept. -/
def isClose (likeness : Likeness) : Bool :=
  decide (3 * likeness.longest < 5 * likeness.kept)

/-- Comparison of the shares kept. -/
def order (left right : Likeness) : Ordering :=
  compare (left.kept * right.longest) (right.kept * left.longest)

end Likeness

/-- The likeness of two texts as a floating-point number: one less the share of
edits, both rounded. -/
def similarity? (left right : String) : Option Number.Binary64 :=
  let longest := max left.toList.length right.toList.length
  if longest = 0 then Number.Binary64.ofNat? 1
  else
    (Number.Binary64.ofFraction? false ⟨Text.editDistance left right, longest⟩).bind
      Number.Binary64.oneMinus?

/-- A command of the tables and how much its address and its name are alike what
was written. -/
structure Candidate where
  address : Likeness
  command : Likeness
  text : String

namespace Candidate

/-- Whether a candidate may stand before another: its address is more alike, or
equally alike and its name at least as much. -/
def before (left right : Candidate) : Bool :=
  match left.address.order right.address with
  | .gt => true
  | .lt => false
  | .eq => left.command.order right.command != .lt

/-- The built-in commands that are offered. -/
def systemCommands : List String :=
  ["help", "help:at", "model", "models", "debug", "clear", "history"]

/-- The commands of a domain that are alike a name; an empty name fits all. -/
def ofDomain (address : Likeness) (domain : Domain) (name : String) :
    List Candidate :=
  domain.commonCommands.filterMap fun command =>
    let likeness := if name.isEmpty then Likeness.full else Likeness.of name command
    if likeness.isClose then
      some ⟨address, likeness, "@" ++ domain.name ++ ":" ++ command⟩
    else none

/-- The commands of all domains alike this domain and name. -/
def ofDomains (target name : String) : List Candidate :=
  Domain.all.flatMap fun domain =>
    let address := Likeness.of target domain.name
    if address.isClose then ofDomain address domain name else []

/-- The built-in commands alike a name. -/
def ofSystem (name : String) : List Candidate :=
  systemCommands.filterMap fun command =>
    let likeness := Likeness.of name command
    if likeness.isClose then some ⟨.full, likeness, "/" ++ command⟩ else none

/-- The text before a colon and the segment behind it, in lower case. -/
def segments (text : List Char) : String × String :=
  match Text.cut? ':' text with
  | some (target, rest) =>
      (Text.asciiLower (String.ofList target),
        Text.asciiLower (String.ofList (rest.takeWhile (· != ':'))))
  | none => (Text.asciiLower (String.ofList text), "")

/-- The candidates for the first word of a text, in table order. -/
def ofWord (word : List Char) : List Candidate :=
  match word with
  | '@' :: rest =>
      let (target, name) := segments rest
      ofDomains target name
  | '/' :: rest => ofSystem (Text.asciiLower (String.ofList rest))
  | _ => []

/-- The number of commands offered. -/
def most : Nat := 3

end Candidate

/-- The commands that a text may have been meant for. -/
def similarCommands (text : String) : List String :=
  (((Candidate.ofWord (Text.firstWord text.toList)).mergeSort Candidate.before).take
    Candidate.most).map Candidate.text

end ChatOps
