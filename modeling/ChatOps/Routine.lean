/-!
# Routines

What a handler does once it is started: it ends with a result, perhaps after
waiting.  A routine is run in steps between which other things happen; its only
contact with them is whether its execution has been cancelled and which gates are
open.
-/

set_option autoImplicit false

namespace ChatOps

/-- The work of a handler.  The result may depend on whether the execution has been
cancelled by then. -/
inductive Routine (Result : Type) where
  | finish (result : Bool → Result)
  | untilCancelled (rest : Routine Result)
  | untilOpen (gate : String) (rest : Routine Result)
  | cancelSelf (rest : Routine Result)

namespace Routine

variable {Result Other : Type}

/-- A routine that ends at once. -/
def done (result : Result) : Routine Result := .finish fun _ => result

/-- Change the result. -/
def map (change : Result → Other) : Routine Result → Routine Other
  | .finish result => .finish fun cancelled => change (result cancelled)
  | .untilCancelled rest => .untilCancelled (rest.map change)
  | .untilOpen gate rest => .untilOpen gate (rest.map change)
  | .cancelSelf rest => .cancelSelf (rest.map change)

/-- How far a routine has come: to its end, or to a point where it waits. -/
inductive Progress (Result : Type) where
  | finished (result : Result)
  | waiting (rest : Routine Result)

/-- Run a routine as far as it can.  Also says whether its execution is cancelled
by then. -/
def advance (isOpen : String → Bool) (cancelled : Bool) :
    Routine Result → Bool × Progress Result
  | .finish result => (cancelled, .finished (result cancelled))
  | .untilCancelled rest =>
      if cancelled then advance isOpen cancelled rest
      else (cancelled, .waiting (.untilCancelled rest))
  | .untilOpen gate rest =>
      if isOpen gate then advance isOpen cancelled rest
      else (cancelled, .waiting (.untilOpen gate rest))
  | .cancelSelf rest => advance isOpen true rest

/-- Whether a routine waits for the cancellation of its execution. -/
def awaitsCancel : Routine Result → Bool
  | .untilCancelled _ => true
  | _ => false

/-- Whether a routine waits for a gate. -/
def awaitsGate (gate : String) : Routine Result → Bool
  | .untilOpen awaited _ => awaited == gate
  | _ => false

end Routine

end ChatOps
