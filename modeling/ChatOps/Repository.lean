import ChatOps.Context
import ChatOps.Failure

/-!
# Repositories

The working copy behind a version-control plugin, and the queries by which the
context learns about it.  Any query may fail.
-/

set_option autoImplicit false

namespace ChatOps

/-- A query to a repository. -/
inductive RepositoryQuery where
  | branches
  | changedFiles
  | userName
  | remoteUrl
  | commits
  deriving DecidableEq

namespace RepositoryQuery

/-- Every query in the order in which they are made. -/
def all : List RepositoryQuery :=
  [.branches, .changedFiles, .userName, .remoteUrl, .commits]

def name : RepositoryQuery → String
  | .branches => "branches"
  | .changedFiles => "changed_files"
  | .userName => "user_name"
  | .remoteUrl => "remote_url"
  | .commits => "commits"

def ofName? (name : String) : Option RepositoryQuery :=
  all.find? fun query => query.name == name

end RepositoryQuery

/-- A repository; nothing can be asked of one that is not available. -/
structure Repository where
  available : Bool
  copy : WorkingCopy
  failing : List RepositoryQuery
  deriving DecidableEq

namespace Repository

/-- The error of a query, if it has one. -/
def error? (repository : Repository) (query : RepositoryQuery) : Option GitError :=
  if !repository.available then some .noRepository
  else if repository.failing.contains query then some (.runtime query.name)
  else none

/-- The answer to a query. -/
def ask {Answer : Type} (repository : Repository) (query : RepositoryQuery)
    (answer : Answer) : Except GitError Answer :=
  match repository.error? query with
  | some error => .error error
  | none => .ok answer

/-- The state of the working copy with at most so many commits, if every query
succeeds. -/
def inspect (repository : Repository) (commitLimit : Nat) :
    Except GitError WorkingCopy := do
  let branches ← repository.ask .branches repository.copy.branches
  let changedFiles ← repository.ask .changedFiles repository.copy.changedFiles
  let userName ← repository.ask .userName repository.copy.userName
  let remoteUrl ← repository.ask .remoteUrl repository.copy.remoteUrl
  let commits ←
    repository.ask .commits (repository.copy.recentCommits.take commitLimit)
  .ok ⟨branches, changedFiles, userName, remoteUrl, commits⟩

/-- Check out a branch, which is made if it does not exist. -/
def checkout (repository : Repository) (name : String) : Repository :=
  let moved := repository.copy.branches.map fun branch =>
    { branch with isCurrent := branch.name == name }
  let branches :=
    if moved.any Branch.isCurrent then moved else moved ++ [⟨name, none, true⟩]
  { repository with copy := { repository.copy with branches := branches } }

def setChangedFiles (repository : Repository) (files : List String) : Repository :=
  { repository with copy := { repository.copy with changedFiles := files } }

/-- Let just this query fail, or none. -/
def failOn (repository : Repository) (query : Option RepositoryQuery) : Repository :=
  { repository with failing := query.toList }

end Repository

end ChatOps
