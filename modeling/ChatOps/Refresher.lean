import ChatOps.Ticker

/-!
# Refreshers

A refresher is a piece of background work with a ticker of its own, which starts when the
refresher first runs.  Only the one that was spawned last can be stopped, and spawning another
one aborts it.  One that was aborted does not fire any more; it is dropped when it is to run.
-/

set_option autoImplicit false

namespace ChatOps

/-- A refresher; there is no ticker before the first run. -/
structure Refresher where
  serial : Nat
  period : Nat
  ticker : Option Ticker
  aborted : Bool

namespace Refresher

/-- Whether the ticker fires by a time. -/
def isDue (refresher : Refresher) (now : Nat) : Bool :=
  match refresher.ticker with
  | some ticker => decide (ticker.due ≤ now)
  | none => false

/-- The ticker with which a refresher runs. -/
def tickerAt (refresher : Refresher) (now : Nat) : Ticker :=
  refresher.ticker.getD (.start refresher.period now)

end Refresher

/-- The refreshers that were not dropped, the one that can be stopped, and how many were
spawned. -/
structure Refreshers where
  tasks : List Refresher
  running : Option Nat
  spawned : Nat

namespace Refreshers

def empty : Refreshers := ⟨[], none, 0⟩

/-- The refreshers whose tickers fire by a time. -/
def due (refreshers : Refreshers) (now : Nat) : List Nat :=
  (refreshers.tasks.filter (·.isDue now)).map Refresher.serial

/-- Abort what can be stopped. -/
def abort (refreshers : Refreshers) : Refreshers :=
  { refreshers with
    tasks := refreshers.tasks.map fun task =>
      if refreshers.running = some task.serial then { task with aborted := true } else task
    running := none }

/-- Spawn a refresher in place of what could be stopped. -/
def start (refreshers : Refreshers) (period : Nat) : Refreshers where
  tasks := refreshers.abort.tasks ++ [⟨refreshers.spawned, period, none, false⟩]
  running := some refreshers.spawned
  spawned := refreshers.spawned + 1

/-- Run a refresher, and say how often it fires. -/
def run (refreshers : Refreshers) (serial now : Nat) : Refreshers × Nat :=
  match refreshers.tasks.find? fun task => task.serial == serial with
  | some task =>
      if task.aborted then
        ({ refreshers with
            tasks := refreshers.tasks.filter fun other => other.serial != serial }, 0)
      else
        let ticker := task.tickerAt now
        ({ refreshers with
            tasks := refreshers.tasks.map fun other =>
              if other.serial = serial then { other with ticker := some (ticker.after now) }
              else other },
          ticker.firings now)
  | none => (refreshers, 0)

end Refreshers

end ChatOps
