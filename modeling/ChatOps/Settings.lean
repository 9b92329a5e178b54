import ChatOps.Json.Member
import ChatOps.Registry.Builtin

/-!
# Settings

What can be set about an assistant.  A setting that is not given has its standard
value.
-/

set_option autoImplicit false

namespace ChatOps

/-- The settings of an assistant; times are in milliseconds. -/
structure Settings where
  refreshInterval : Nat
  modelTimeout : Nat
  issueKeyLife : Nat
  commitLimit : Nat
  preferenceCapacity : Nat
  historyCapacity : Nat
  fallbackDelay : Nat
  models : ModelChoice
  deriving DecidableEq

/-- The settings where nothing else is said. -/
def Settings.standard : Settings :=
  { refreshInterval := 30000
    modelTimeout := 5000
    issueKeyLife := 300000
    commitLimit := 10
    preferenceCapacity := 5
    historyCapacity := 100
    fallbackDelay := 1000
    models := ⟨["gpt-4", "gpt-4o", "claude-3-5-sonnet"], some "gpt-4"⟩ }

namespace Settings

/-- The models on offer.  Where they are given and none is chosen, none is in use. -/
def models? (json : Json) : Option ModelChoice := do
  let available ← json.maybe? Json.asStrings? "available_models"
  let current ← json.maybe? Json.asString? "default_model"
  match available with
  | some models => some ⟨models, current⟩
  | none => some standard.models

/-- Read settings. -/
def ofJson? (json : Json) : Option Settings := do
  let models ← models? json
  let refreshInterval ←
    json.orElse? standard.refreshInterval Json.asNat? "context_refresh_interval_ms"
  let modelTimeout ←
    json.orElse? standard.modelTimeout Json.asNat? "speculative_timeout_ms"
  let issueKeyLife ← json.orElse? standard.issueKeyLife Json.asNat? "issue_key_ttl_ms"
  let commitLimit ← json.orElse? standard.commitLimit Json.asNat? "recent_commit_limit"
  let preferenceCapacity ←
    json.orElse? standard.preferenceCapacity Json.asNat? "preference_capacity"
  let historyCapacity ←
    json.orElse? standard.historyCapacity Json.asNat? "history_capacity"
  let fallbackDelay ←
    json.orElse? standard.fallbackDelay Json.asNat? "fallback_poll_delay_ms"
  some
    { refreshInterval := refreshInterval
      modelTimeout := modelTimeout
      issueKeyLife := issueKeyLife
      commitLimit := commitLimit
      preferenceCapacity := preferenceCapacity
      historyCapacity := historyCapacity
      fallbackDelay := fallbackDelay
      models := models }

/-- Write settings. -/
def toJson (settings : Settings) : Json :=
  Json.ofMembers
    [("available_models", Json.ofStrings settings.models.available),
      ("default_model", Json.ofOption .string settings.models.current),
      ("context_refresh_interval_ms", Json.ofNat settings.refreshInterval),
      ("speculative_timeout_ms", Json.ofNat settings.modelTimeout),
      ("issue_key_ttl_ms", Json.ofNat settings.issueKeyLife),
      ("recent_commit_limit", Json.ofNat settings.commitLimit),
      ("preference_capacity", Json.ofNat settings.preferenceCapacity),
      ("history_capacity", Json.ofNat settings.historyCapacity),
      ("fallback_poll_delay_ms", Json.ofNat settings.fallbackDelay)]

end Settings

end ChatOps
