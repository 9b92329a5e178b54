import ChatOps.Plugin

/-!
# Scripted handlers

Handlers described by what they do: return something, fail, wait, or cancel
themselves.  Plugins can be put together from them.
-/

set_option autoImplicit false

namespace ChatOps

/-- What a scripted handler does. -/
inductive Script where
  | output (output : Output)
  | classified (value : Json)
  | echo
  | firstArg
  | error (error : PluginError)
  | awaitCancel (rest : Script)
  | awaitGate (gate : String) (rest : Script)
  | cancelSelf (rest : Script)

namespace Script

/-- The invocation as data, with whether the execution has been cancelled. -/
def echoed (invocation : Invocation) (cancelled : Bool) : Json :=
  Json.ofMembers
    [("command", .string invocation.command), ("args", .array invocation.args),
      ("flags", Json.ofMap invocation.flags), ("options", Json.ofMap invocation.options),
      ("cancelled", .bool cancelled)]

/-- The routine of a scripted handler. -/
def run (invocation : Invocation) : Script → Routine PluginOutcome
  | .output given => .done (.ok given)
  | .classified value => .done (.ok (Output.classify value))
  | .echo => .finish fun cancelled => .ok (.json (echoed invocation cancelled))
  | .firstArg => .done (.ok (.text (invocation.firstArg?.getD "<none>")))
  | .error reason => .done (.error reason)
  | .awaitCancel rest => .untilCancelled (run invocation rest)
  | .awaitGate gate rest => .untilOpen gate (run invocation rest)
  | .cancelSelf rest => .cancelSelf (run invocation rest)

/-- The code of a scripted handler. -/
def code (script : Script) : HandlerCode := fun invocation =>
  (script.run invocation).map fun outcome => outcome.mapError PluginError.toHandlerError

/-- A plugin's code with scripts in place of some commands, declared or not. -/
def overlay (scripts : SortedMap String Script)
    (base : Invocation → Routine PluginOutcome) (invocation : Invocation) :
    Routine PluginOutcome :=
  match scripts.get? invocation.command with
  | some script => script.run invocation
  | none => base invocation

/-- A plugin with scripted commands. -/
def plugin (id : String) (commands : List (Declaration × Script))
    (dynamic : SortedMap String Script) : Plugin :=
  let plain := Plugin.ofCommands id (commands.map fun entry => (entry.1, entry.2.code))
  { plain with run := overlay dynamic plain.run }

/-- A plugin that declares commands but runs only the scripts given besides. -/
def minimalPlugin (id : String) (commands : List Declaration)
    (dynamic : SortedMap String Script) : Plugin :=
  .plain id commands
    (overlay dynamic fun invocation =>
      .done (.error (.unsupported id invocation.command)))

end Script

end ChatOps
