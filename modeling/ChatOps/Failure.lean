import ChatOps.Address

/-!
# Failures

Why a text is no command, why a plugin cannot run, what handlers and plugins
report, and the failure that reaches the user.  The wording of each is given by
its `message`.
-/

set_option autoImplicit false

namespace ChatOps

/-- Why a text is rejected as a command. -/
inductive Rejection where
  | notACommand
  | missingSeparator (address : String)
  | emptyAddress
  | emptyCommand
  deriving DecidableEq

def Rejection.message : Rejection → String
  | .notACommand => "input is not a command"
  | .missingSeparator address =>
      "'@" ++ address ++ "' is missing a command: use @domain:command"
  | .emptyAddress => "command is missing a domain or agent before ':'"
  | .emptyCommand => "command name must not be empty"

/-- Whether a plugin can run commands, and if not, why. -/
inductive Availability where
  | ready
  | disabled
  | uninitialized
  | unauthenticated
  deriving DecidableEq

namespace Availability

/-- The words shown to users. -/
def words : Availability → String
  | .ready => "ready"
  | .disabled => "disabled"
  | .uninitialized => "not initialized"
  | .unauthenticated => "not authenticated"

/-- The name in stored data. -/
def name : Availability → String
  | .ready => "ready"
  | .disabled => "disabled"
  | .uninitialized => "uninitialized"
  | .unauthenticated => "unauthenticated"

def all : List Availability := [.ready, .disabled, .uninitialized, .unauthenticated]

def ofName? (name : String) : Option Availability :=
  all.find? fun availability => availability.name == name

def toJson (availability : Availability) : Json := .string availability.name

def ofJson? : Json → Option Availability := Json.choice? ofName?

end Availability

/-- What a handler reports when it does not finish. -/
inductive HandlerError where
  | failed (reason : String)
  | invalidArguments (reason : String)
  | cancelled
  deriving DecidableEq

def HandlerError.message : HandlerError → String
  | .failed reason => reason
  | .invalidArguments reason => "invalid arguments: " ++ reason
  | .cancelled => "command was cancelled"

/-- What a plugin reports when it does not finish. -/
inductive PluginError where
  | unsupported (plugin command : String)
  | handler (error : HandlerError)
  | runtime (reason : String)
  deriving DecidableEq

def PluginError.message : PluginError → String
  | .unsupported plugin command =>
      plugin ++ " does not support command '" ++ command ++ "'"
  | .handler error => error.message
  | .runtime reason => "plugin runtime error: " ++ reason

/-- A plugin's error as that of a handler. -/
def PluginError.toHandlerError : PluginError → HandlerError
  | .handler error => error
  | other => .failed other.message

/-- The failure of a command between parsing and reporting. -/
inductive Failure where
  | rejected (reason : Rejection)
  | unknown (command : String) (suggestions : List String)
  | execution (reason : String)
  | cancelled
  | unavailable (plugin : String) (availability : Availability)
  deriving DecidableEq

def Failure.message : Failure → String
  | .rejected reason => reason.message
  | .unknown command _ => "unknown command '" ++ command ++ "'"
  | .execution reason => reason
  | .cancelled => "command was cancelled"
  | .unavailable plugin availability => plugin ++ " is " ++ availability.words

def HandlerError.toFailure : HandlerError → Failure
  | .cancelled => .cancelled
  | other => .execution other.message

def PluginError.toFailure : PluginError → Failure
  | .handler error => error.toFailure
  | other => .execution other.message

/-- What a version-control client reports when a query fails. -/
inductive GitError where
  | noRepository
  | runtime (reason : String)
  deriving DecidableEq

def GitError.message : GitError → String
  | .noRepository => "no repository is available"
  | .runtime reason => "git client error: " ++ reason

/-- What a language model reports when it gives no answer. -/
inductive ModelError where
  | unavailable
  | runtime (reason : String)
  deriving DecidableEq

def ModelError.message : ModelError → String
  | .unavailable => "language model is unavailable"
  | .runtime reason => "language model error: " ++ reason

end ChatOps
