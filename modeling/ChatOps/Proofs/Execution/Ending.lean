import ChatOps.Routine

/-!
# How routines end

A routine is run on whenever what it waits for has happened, and so it may end with
different results (`Ends`).  Changing the result of a routine changes nothing else about
its endings (`Ends.of_map`).
-/

set_option autoImplicit false

namespace ChatOps.Routine

variable {Result Other : Type}

theorem map_map {Third : Type} (routine : Routine Result) (change : Result → Other)
    (again : Other → Third) :
    (routine.map change).map again = routine.map fun result => again (change result) := by
  induction routine with
  | finish result => rfl
  | untilCancelled rest inductionHypothesis =>
      rw [map, map, map, inductionHypothesis]
  | untilOpen gate rest inductionHypothesis =>
      rw [map, map, map, inductionHypothesis]
  | cancelSelf rest inductionHypothesis =>
      rw [map, map, map, inductionHypothesis]

def Progress.map (change : Result → Other) : Progress Result → Progress Other
  | .finished result => .finished (change result)
  | .waiting rest => .waiting (rest.map change)

theorem advance_map (isOpen : String → Bool) (cancelled : Bool) (change : Result → Other)
    (routine : Routine Result) :
    (routine.map change).advance isOpen cancelled =
      ((routine.advance isOpen cancelled).1,
        (routine.advance isOpen cancelled).2.map change) := by
  induction routine generalizing cancelled with
  | finish result => rfl
  | untilCancelled rest inductionHypothesis =>
      rw [map, advance, advance]
      by_cases fired : cancelled
      · rw [if_pos fired, if_pos fired]
        exact inductionHypothesis cancelled
      · rw [if_neg fired, if_neg fired]
        rfl
  | untilOpen gate rest inductionHypothesis =>
      rw [map, advance, advance]
      by_cases opened : isOpen gate
      · rw [if_pos opened, if_pos opened]
        exact inductionHypothesis cancelled
      · rw [if_neg opened, if_neg opened]
        rfl
  | cancelSelf rest inductionHypothesis =>
      rw [map, advance, advance]
      exact inductionHypothesis true

/-- Whether a routine may end with a result when it is run on again and again. -/
inductive Ends : Routine Result → Result → Prop where
  | finished {routine : Routine Result} {result : Result} (isOpen : String → Bool)
      (cancelled : Bool) (step : (routine.advance isOpen cancelled).2 = .finished result) :
      Ends routine result
  | later {routine rest : Routine Result} {result : Result} (isOpen : String → Bool)
      (cancelled : Bool) (step : (routine.advance isOpen cancelled).2 = .waiting rest)
      (after : Ends rest result) : Ends routine result

theorem Ends.of_map {change : Result → Other} {routine : Routine Result} {result : Other}
    (ends : (routine.map change).Ends result) :
    ∃ inner, routine.Ends inner ∧ change inner = result := by
  generalize mapped : routine.map change = whole at ends
  induction ends generalizing routine with
  | finished isOpen cancelled step =>
      rw [← mapped, advance_map] at step
      cases progress : (routine.advance isOpen cancelled).2 with
      | finished inner =>
          rw [progress] at step
          cases step
          exact ⟨inner, .finished isOpen cancelled progress, rfl⟩
      | waiting rest =>
          rw [progress] at step
          cases step
  | later isOpen cancelled step after inductionHypothesis =>
      rw [← mapped, advance_map] at step
      cases progress : (routine.advance isOpen cancelled).2 with
      | finished inner =>
          rw [progress] at step
          cases step
      | waiting rest =>
          rw [progress] at step
          cases step
          obtain ⟨inner, innerEnds, same⟩ := inductionHypothesis rfl
          exact ⟨inner, .later isOpen cancelled progress innerEnds, same⟩

end ChatOps.Routine
