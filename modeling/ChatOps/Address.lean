import ChatOps.Json.Record
import ChatOps.Text.Blank
import ChatOps.Text.Letter

/-!
# Addresses of commands

A command is registered either under a domain, one of six kinds of external
system, or under an agent, which is a plugin or the reserved agent `core`.  Users
write `@address:command`, and for `core` just `/command`.
-/

set_option autoImplicit false

namespace ChatOps

/-- A kind of external system. -/
inductive Domain where
  | git
  | jira
  | doc
  | pocket
  | vault
  | rules
  deriving DecidableEq

namespace Domain

/-- Every domain, in table order. -/
def all : List Domain := [.git, .jira, .doc, .pocket, .vault, .rules]

/-- The position in table order. -/
def rank : Domain → Nat
  | .git => 0
  | .jira => 1
  | .doc => 2
  | .pocket => 3
  | .vault => 4
  | .rules => 5

/-- The name that users write. -/
def name : Domain → String
  | .git => "git"
  | .jira => "jira"
  | .doc => "doc"
  | .pocket => "pocket"
  | .vault => "vault"
  | .rules => "rules"

/-- The domain with exactly this name. -/
def ofName? (name : String) : Option Domain :=
  all.find? fun domain => domain.name == name

/-- The domain that a text names, whatever the case of its letters and the blanks
around it. -/
def named? (text : String) : Option Domain :=
  all.find? fun domain => Text.sameIgnoringCase domain.name (Text.trimmed text)

/-- The commands offered when a command of the domain is misspelt. -/
def commonCommands : Domain → List String
  | .git =>
      ["status", "commit", "push", "pull", "checkout", "branch", "log", "diff",
        "merge", "stash"]
  | .jira => ["issue", "search", "create", "assign", "comment", "transition"]
  | .doc => ["search", "open", "list", "summarize"]
  | .pocket => ["load", "search", "list", "save"]
  | .vault => ["get", "set", "list"]
  | .rules => ["list", "show", "apply"]

/-- What is said of a text that names no domain. -/
def unknownMessage (text : String) : String := "unknown command domain: " ++ text

def toJson (domain : Domain) : Json := .string domain.name

def ofJson? : Json → Option Domain := Json.choice? ofName?

/-- The domain in a member that stands beside its scheme, where an empty object does
for null. -/
def ofMember? : Json → Option Domain
  | .object [(name, .object [])] => ofName? name
  | json => ofJson? json

end Domain

/-- The agent that owns the built-in commands. -/
def coreAgent : String := "core"

/-- Where a handler is registered. -/
inductive Address where
  | agent (id : String)
  | domain (domain : Domain)
  deriving DecidableEq

namespace Address

/-- The address of the built-in commands. -/
def core : Address := .agent coreAgent

def isCore : Address → Bool
  | .agent id => id == coreAgent
  | .domain _ => false

/-- The address that a leading segment stands for: the domain that it names, or
else an agent. -/
def resolve (segment : String) : Address :=
  match Domain.named? segment with
  | some place => .domain place
  | none => .agent (Text.asciiLower (Text.trimmed segment))

/-- The address as users write it. -/
def display : Address → String
  | .agent id => id
  | .domain place => place.name

/-- Whether a name starts with a slash. -/
def isSlashed (name : String) : Bool := name.toList.head? == some '/'

/-- A name with a slash in front. -/
def slashed (name : String) : String := if isSlashed name then name else "/" ++ name

/-- A command of this address as users write it. -/
def qualify (address : Address) (name : String) : String :=
  if address.isCore then slashed name else "@" ++ address.display ++ ":" ++ name

/-- Domains come first, in table order, and then agents by identifier. -/
def order : Address → Address → Ordering
  | .domain left, .domain right => compare left.rank right.rank
  | .domain _, .agent _ => .lt
  | .agent _, .domain _ => .gt
  | .agent left, .agent right => compare left right

instance : Ord Address := ⟨order⟩

/-- The scheme is `agent` or `domain`, and the name is that of the agent or
domain. -/
def toJson : Address → Json
  | .agent id => Json.ofMembers [("scheme", .string "agent"), ("name", .string id)]
  | .domain place =>
      Json.ofMembers [("scheme", .string "domain"), ("name", place.toJson)]

/-- The two schemes of addresses. -/
inductive Scheme where
  | agent
  | domain

def Scheme.ofName? (name : String) : Option Scheme :=
  if name = "agent" then some .agent
  else if name = "domain" then some .domain
  else none

def fields : List Json.Field := [⟨"scheme", .required⟩, ⟨"name", .required⟩]

/-- Read an address from its scheme and its name, each with a reader of its own. -/
def ofParts? (scheme? : Json → Option Scheme) (domain? : Json → Option Domain)
    (scheme name : Json) : Option Address :=
  match scheme? scheme with
  | some .agent => name.asString?.map Address.agent
  | some .domain => (domain? name).map Address.domain
  | none => none

/-- The scheme is a plain string in an array, and a choice in an object. -/
def ofJson? (json : Json) : Option Address :=
  match json, json.fields? fields with
  | .object _, some [some scheme, some name] =>
      ofParts? (Json.choice? Scheme.ofName?) Domain.ofMember? scheme name
  | _, some [some scheme, some name] =>
      ofParts? (fun json => json.asString?.bind Scheme.ofName?) Domain.ofJson? scheme name
  | _, _ => none

end Address

/-! ## Order -/

theorem Domain.rank_injective {left right : Domain} (same : left.rank = right.rank) :
    left = right := by
  cases left <;> cases right <;> first | rfl | cases same

instance : Std.OrientedOrd Address where
  eq_swap {left right} :=
    match left, right with
    | .agent one, .agent two =>
        (Std.OrientedCmp.eq_swap : compare one two = (compare two one).swap)
    | .agent _, .domain _ => rfl
    | .domain _, .agent _ => rfl
    | .domain one, .domain two =>
        (Std.OrientedCmp.eq_swap :
          compare one.rank two.rank = (compare two.rank one.rank).swap)

theorem Address.order_trans {first second third : Address}
    (before : (Address.order first second).isLE)
    (after : (Address.order second third).isLE) :
    (Address.order first third).isLE :=
  match first, second, third with
  | .agent one, .agent two, .agent three =>
      (Std.TransCmp.isLE_trans (b := two) before after : (compare one three).isLE)
  | .domain one, .domain two, .domain three =>
      (Std.TransCmp.isLE_trans (b := two.rank) before after :
        (compare one.rank three.rank).isLE)
  | .domain _, _, .agent _ => rfl
  | .agent _, .domain _, _ => by cases before
  | .agent _, .agent _, .domain _ => by cases after
  | .domain _, .agent _, .domain _ => by cases after

instance : Std.TransOrd Address where
  isLE_trans := Address.order_trans

theorem Address.eq_of_order {left right : Address}
    (same : Address.order left right = .eq) : left = right :=
  match left, right with
  | .agent one, .agent two =>
      congrArg Address.agent
        (Std.LawfulEqOrd.eq_of_compare (show compare one two = .eq from same))
  | .domain one, .domain two =>
      congrArg Address.domain (Domain.rank_injective
        (Std.LawfulEqOrd.eq_of_compare
          (show compare one.rank two.rank = .eq from same)))
  | .agent _, .domain _ => by cases same
  | .domain _, .agent _ => by cases same

instance : Std.LawfulEqOrd Address where
  eq_of_compare := Address.eq_of_order

end ChatOps
