import ChatOps.Json.Record
import ChatOps.Time.Instant

/-!
# Context

What is known of the outside world when commands are generated: the working copy,
the integrations, and the file that is open.
-/

set_option autoImplicit false

namespace ChatOps

/-- A part of the context that is refreshed as a whole. -/
inductive Integration where
  | git
  | jira
  | build
  | pocket
  deriving DecidableEq

namespace Integration

/-- Every integration in the order of refreshing. -/
def all : List Integration := [.git, .jira, .build, .pocket]

/-- The name of the plugin or domain behind it, which users see. -/
def display : Integration → String
  | .git => "git"
  | .jira => "jira"
  | .build => "swdp"
  | .pocket => "pocket"

/-- The name in stored data. -/
def name : Integration → String
  | .git => "git"
  | .jira => "jira"
  | .build => "build"
  | .pocket => "pocket"

def ofName? (name : String) : Option Integration :=
  all.find? fun integration => integration.name == name

def toJson (integration : Integration) : Json := .string integration.name

def ofJson? : Json → Option Integration := Json.choice? ofName?

end Integration

/-- A local branch and the remote branch that it tracks. -/
structure Branch where
  name : String
  tracked : Option String
  isCurrent : Bool
  deriving DecidableEq

namespace Branch

def toJson (branch : Branch) : Json :=
  Json.ofMembers
    [("name", .string branch.name), ("upstream", Json.ofOption .string branch.tracked),
      ("is_current", .bool branch.isCurrent)]

def fields : List Json.Field :=
  [⟨"name", .required⟩, ⟨"upstream", .optional⟩, ⟨"is_current", .required⟩]

def ofJson? (json : Json) : Option Branch :=
  match json.fields? fields with
  | some [name, tracked, isCurrent] => do
      let name ← Json.given? Json.asString? name
      let tracked ← Json.optional? Json.asString? tracked
      let isCurrent ← Json.given? Json.asBool? isCurrent
      some ⟨name, tracked, isCurrent⟩
  | _ => none

end Branch

/-- The state of a working copy; commits are listed newest first. -/
structure WorkingCopy where
  branches : List Branch
  changedFiles : List String
  userName : Option String
  remoteUrl : Option String
  recentCommits : List String
  deriving DecidableEq

namespace WorkingCopy

/-- The branch that is checked out. -/
def currentBranch? (copy : WorkingCopy) : Option Branch :=
  copy.branches.find? Branch.isCurrent

def toJson (copy : WorkingCopy) : Json :=
  Json.ofMembers
    [("branches", .array (copy.branches.map Branch.toJson)),
      ("changed_files", Json.ofStrings copy.changedFiles),
      ("user_name", Json.ofOption .string copy.userName),
      ("remote_url", Json.ofOption .string copy.remoteUrl),
      ("recent_commits", Json.ofStrings copy.recentCommits)]

def fields : List Json.Field :=
  [⟨"branches", .required⟩, ⟨"changed_files", .required⟩, ⟨"user_name", .optional⟩,
    ⟨"remote_url", .optional⟩, ⟨"recent_commits", .required⟩]

def ofJson? (json : Json) : Option WorkingCopy :=
  match json.fields? fields with
  | some [branches, changedFiles, userName, remoteUrl, recentCommits] => do
      let branches ← Json.given? (Json.list? Branch.ofJson?) branches
      let changedFiles ← Json.given? Json.asStrings? changedFiles
      let userName ← Json.optional? Json.asString? userName
      let remoteUrl ← Json.optional? Json.asString? remoteUrl
      let recentCommits ← Json.given? Json.asStrings? recentCommits
      some ⟨branches, changedFiles, userName, remoteUrl, recentCommits⟩
  | _ => none

end WorkingCopy

/-- The state of an integration without a client of its own. -/
structure Connection where
  connected : Bool
  refreshedAt : Instant
  currentItem : Option String
  deriving DecidableEq

namespace Connection

def toJson (connection : Connection) : Json :=
  Json.ofMembers
    [("connected", .bool connection.connected),
      ("refreshed_at", .string connection.refreshedAt.text),
      ("current_item", Json.ofOption .string connection.currentItem)]

def fields : List Json.Field :=
  [⟨"connected", .required⟩, ⟨"refreshed_at", .required⟩,
    ⟨"current_item", .optional⟩]

def ofJson? (json : Json) : Option Connection :=
  match json.fields? fields with
  | some [connected, refreshedAt, currentItem] => do
      let connected ← Json.given? Json.asBool? connected
      let written ← Json.given? Json.asString? refreshedAt
      let refreshedAt ← Instant.ofText? written
      let currentItem ← Json.optional? Json.asString? currentItem
      some ⟨connected, refreshedAt, currentItem⟩
  | _ => none

end Connection

/-- Everything that commands can be generated from. -/
structure Context where
  git : Option WorkingCopy
  jira : Option Connection
  build : Option Connection
  pocket : Option Connection
  activeFile : Option String
  deriving DecidableEq

namespace Context

/-- Nothing is known. -/
def empty : Context := ⟨none, none, none, none, none⟩

/-- The branch that is checked out, if the working copy is known. -/
def currentBranch? (context : Context) : Option Branch :=
  context.git.bind WorkingCopy.currentBranch?

def currentBranchName? (context : Context) : Option String :=
  context.currentBranch?.map Branch.name

def toJson (context : Context) : Json :=
  Json.ofMembers
    [("git", Json.ofOption WorkingCopy.toJson context.git),
      ("jira", Json.ofOption Connection.toJson context.jira),
      ("build", Json.ofOption Connection.toJson context.build),
      ("pocket", Json.ofOption Connection.toJson context.pocket),
      ("active_file", Json.ofOption .string context.activeFile)]

def fields : List Json.Field :=
  [⟨"git", .optional⟩, ⟨"jira", .optional⟩, ⟨"build", .optional⟩,
    ⟨"pocket", .optional⟩, ⟨"active_file", .optional⟩]

def ofJson? (json : Json) : Option Context :=
  match json.fields? fields with
  | some [git, jira, build, pocket, activeFile] => do
      let git ← Json.optional? WorkingCopy.ofJson? git
      let jira ← Json.optional? Connection.ofJson? jira
      let build ← Json.optional? Connection.ofJson? build
      let pocket ← Json.optional? Connection.ofJson? pocket
      let activeFile ← Json.optional? Json.asString? activeFile
      some ⟨git, jira, build, pocket, activeFile⟩
  | _ => none

end Context

end ChatOps
