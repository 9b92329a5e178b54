import ChatOps.Address

/-!
# Usage notes

What the help and the completion say about a registered command.
-/

set_option autoImplicit false

namespace ChatOps

/-- The usage note of one command. -/
structure Usage where
  address : Address
  command : String
  description : String
  syntaxLine : String
  examples : List String
  flags : List String
  deriving DecidableEq

namespace Usage

/-- A note whose syntax is the qualified name. -/
def describe (address : Address) (command description : String) : Usage :=
  ⟨address, command, description, address.qualify command, [], []⟩

def toJson (usage : Usage) : Json :=
  Json.ofMembers
    [("address", usage.address.toJson), ("command", .string usage.command),
      ("description", .string usage.description), ("syntax", .string usage.syntaxLine),
      ("examples", Json.ofStrings usage.examples),
      ("flags", Json.ofStrings usage.flags)]

def fields : List Json.Field :=
  [⟨"address", .required⟩, ⟨"command", .required⟩, ⟨"description", .required⟩,
    ⟨"syntax", .required⟩, ⟨"examples", .defaulted⟩, ⟨"flags", .defaulted⟩]

def ofJson? (json : Json) : Option Usage :=
  match json.fields? fields with
  | some [address, command, description, syntaxLine, examples, flags] => do
      let address ← Json.given? Address.ofJson? address
      let command ← Json.given? Json.asString? command
      let description ← Json.given? Json.asString? description
      let syntaxLine ← Json.given? Json.asString? syntaxLine
      let examples ← Json.defaulted? [] Json.asStrings? examples
      let flags ← Json.defaulted? [] Json.asStrings? flags
      some ⟨address, command, description, syntaxLine, examples, flags⟩
  | _ => none

end Usage

end ChatOps
