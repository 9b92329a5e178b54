import ChatOps.Context
import ChatOps.IssueKey
import ChatOps.Template
import ChatOps.Text.FileName
import ChatOps.Text.Letter

/-!
# Generated commands

Commands made from the context, so that users need not write the arguments: a
message for a commit, a name for a new branch, a target for a build and so on.
-/

set_option autoImplicit false

namespace ChatOps.Generation

/-! ## Working copy -/

/-- The name of a file, or the whole path where there is none. -/
def fileTitle (path : String) : String :=
  ((Text.fileName? path.toList).map String.ofList).getD path

/-- The name of a file without extension, or the whole path where there is none. -/
def fileTopic (path : String) : String :=
  ((Text.fileStem? path.toList).map String.ofList).getD path

/-- A message for a commit of these files, or of the file that is open. -/
def commitMessage? (changed : List String) (activeFile : Option String) :
    Option String :=
  match changed with
  | [] => activeFile.map fun file => "Update " ++ fileTitle file
  | [single] => some ("Update " ++ fileTitle single)
  | several => some ("Update " ++ toString several.length ++ " files")

/-- The branches that are offered first. -/
def mainBranches : List String := ["main", "develop", "master"]

/-- The position of a branch among the main ones, or behind them. -/
def branchRank (name : String) : Nat := mainBranches.idxOf name

/-- The branches that can be checked out, main branches first and otherwise in
their order. -/
def checkoutOrder (branches : List Branch) : List String :=
  ((branches.filter fun branch => !branch.isCurrent).mergeSort fun left right =>
    decide (branchRank left.name ≤ branchRank right.name)).map Branch.name

/-- The kinds of work that branch names may begin with. -/
def workKinds : List String :=
  ["feature", "feat", "fix", "bugfix", "hotfix", "chore", "docs", "refactor",
    "release", "test", "perf", "ci", "build", "style"]

/-- The kind of work that a branch is named for. -/
def workKind (branch : Option String) : String :=
  match branch.bind fun name => Text.cut? '/' name.toList with
  | some (head, _) =>
      let kind := Text.asciiLower (String.ofList head)
      if workKinds.contains kind then kind else "feature"
  | none => "feature"

/-- The initials of a name in lower case. -/
def initials (user : Option String) : List Char :=
  (Text.words (user.getD "").toList).flatMap fun word =>
    (word.head?.map Text.lowerCase).getD []

/-- The initials of a user, or a substitute for nobody's. -/
def owner (user : Option String) : String :=
  let letters := initials user
  if letters.isEmpty then "dev" else String.ofList letters

/-- A name for a new branch: kind of work, owner and day. -/
def branchName (branch user : Option String) (now : Instant) : String :=
  workKind branch ++ "/" ++ owner user ++ "/" ++ String.ofList now.monthDay ++ "/"

/-! ## Builds and repositories -/

/-- What to build, and whether to build again after each change. -/
structure BuildTarget where
  target : String
  watch : Bool
  deriving DecidableEq

/-- Whether a name starts with a text. -/
def startsWith (start name : String) : Bool :=
  (Text.afterStart? start.toList name.toList).isSome

/-- The build for a branch. -/
def buildTarget (branch : Option String) : BuildTarget :=
  match branch with
  | none => ⟨"local", false⟩
  | some name =>
      if name = "main" ∨ name = "master" then ⟨"all", false⟩
      else if startsWith "feature/" name then ⟨"local", true⟩
      else if startsWith "release/" name then ⟨"layered", false⟩
      else ⟨"local", false⟩

/-- A text without the slashes at its end. -/
def dropFinalSlashes (text : List Char) : List Char :=
  (text.reverse.dropWhile (· == '/')).reverse

/-- The name of the repository behind an address. -/
def repositoryName? (url : String) : Option String :=
  let path := dropFinalSlashes (Text.trim url.toList)
  let bare := (Text.beforeEnd? ".git".toList path).getD path
  match (Text.splitOn (fun c => c == '/' || c == ':') bare).getLast? with
  | some name => if name.isEmpty then none else some (String.ofList name)
  | none => none

/-! ## Filling templates -/

/-- The key of a pattern such as `@git:commit`, `git:commit` or `git commit`. -/
def patternKey (pattern : String) : String :=
  let trimmed := Text.trim pattern.toList
  let plain := (Text.afterStart? ['@'] trimmed).getD trimmed
  let key :=
    match Text.words plain with
    | [] => []
    | head :: rest =>
        if head.contains ':' then head
        else
          match rest with
          | next :: _ => head ++ ':' :: next
          | [] => head
  Text.asciiLower (String.ofList key)

/-- The key of the current branch, or else of the commits. -/
def issueKey? (context : Context) : Option String :=
  match context.currentBranchName?.bind IssueKey.ofText? with
  | some key => some key
  | none => context.git.bind fun copy => IssueKey.ofCommits? copy.recentCommits

/-- The name of the repository of a working copy. -/
def repository? (context : Context) : Option String := do
  let copy ← context.git
  let url ← copy.remoteUrl
  repositoryName? url

/-- What a search of the documentation is for: the open file or the repository. -/
def topic? (context : Context) : Option String :=
  match context.activeFile with
  | some file => some (fileTopic file)
  | none => repository? context

/-- The values for pushing to or pulling from the branch of the same name. -/
def remoteBranch (branch : Branch) : List (String × Json) :=
  [("branch", .string branch.name), ("set_upstream", .bool branch.tracked.isNone)]

/-- A value for the only blank of a template. -/
def oneValue (name : String) (value : Option String) :
    Option (List (String × Json)) :=
  value.map fun text => [(name, .string text)]

/-- The values for the blanks of a template, if the context has them. -/
def values? (template : Template) (context : Context) (now : Instant) :
    Option (List (String × Json)) :=
  match template with
  | .commit =>
      let changed := (context.git.map WorkingCopy.changedFiles).getD []
      oneValue "message" (commitMessage? changed context.activeFile)
  | .push => context.currentBranch?.map remoteBranch
  | .pull => context.currentBranch?.map remoteBranch
  | .checkout =>
      oneValue "branch"
        (context.git.bind fun copy => (checkoutOrder copy.branches).head?)
  | .branch =>
      let user := context.git.bind WorkingCopy.userName
      oneValue "name" (some (branchName context.currentBranchName? user now))
  | .issue => oneValue "key" (issueKey? context)
  | .build =>
      let chosen := buildTarget context.currentBranchName?
      some [("target", .string chosen.target), ("watch", .bool chosen.watch)]
  | .load => oneValue "repository" (repository? context)
  | .pocketSearch => oneValue "repository" (repository? context)
  | .docSearch => oneValue "query" (topic? context)

/-- A template filled from the context. -/
def ofTemplate? (template : Template) (context : Context) (now : Instant) :
    Option String :=
  (values? template context now).map fun values =>
    template.fill (Json.ofMembers values)

/-- The command for a pattern. -/
def command? (pattern : String) (context : Context) (now : Instant) : Option String :=
  (Template.ofKey? (patternKey pattern)).bind fun template =>
    ofTemplate? template context now

/-! ## Suggestions -/

/-- The templates that are suggested, the most useful first. -/
def suggested : List Template :=
  [.commit, .push, .issue, .build, .pull, .load, .docSearch, .checkout]

/-- Whether there is something to commit. -/
def hasChanges (context : Context) : Bool :=
  (context.git.map fun copy => !copy.changedFiles.isEmpty).getD false

/-- Whether the current branch follows another one. -/
def isTracked (context : Context) : Bool :=
  (context.currentBranch?.map fun branch => branch.tracked.isSome).getD false

/-- Whether a command makes sense now. -/
def isTimely (context : Context) : Template → Bool
  | .commit => hasChanges context
  | .push => !isTracked context || hasChanges context
  | .pull => isTracked context
  | .build => context.currentBranch?.isSome
  | _ => true

/-- The commands suggested in a context, up to a limit. -/
def suggestions (context : Context) (limit : Nat) (now : Instant) : List String :=
  ((suggested.filter (isTimely context)).filterMap fun template =>
    ofTemplate? template context now).take limit

end ChatOps.Generation
