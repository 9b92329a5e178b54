import ChatOps.Newest

/-!
# Feeds

The events that one reader has not yet seen.  Only the newest ones are kept; a
reader who has missed events is first told how many.
-/

set_option autoImplicit false

namespace ChatOps

/-- What a reader of a feed receives. -/
inductive Notice (Event : Type) where
  | missed (count : Nat)
  | event (event : Event)

/-- Events kept for a reader, oldest first, and the number of those missed. -/
structure Feed (Event : Type) where
  capacity : Nat
  missed : Nat
  events : List Event
  bounded : events.length ≤ capacity

namespace Feed

variable {Event : Type}

/-- Nothing has happened. -/
def empty (capacity : Nat) : Feed Event := ⟨capacity, 0, [], Nat.zero_le _⟩

/-- One more event. -/
def push (feed : Feed Event) (event : Event) : Feed Event :=
  { capacity := feed.capacity
    missed := feed.missed + excess feed.capacity (feed.events ++ [event])
    events := newest feed.capacity (feed.events ++ [event])
    bounded := length_newest_le _ _ }

/-- What the reader receives next, in order. -/
def notices (feed : Feed Event) : List (Notice Event) :=
  (if feed.missed = 0 then [] else [.missed feed.missed]) ++ feed.events.map .event

/-- The feed after the reader has received everything. -/
def drained (feed : Feed Event) : Feed Event := empty feed.capacity

/-- Whether there is nothing to receive. -/
def isEmpty (feed : Feed Event) : Bool := feed.notices.isEmpty

/-! ## Laws -/

theorem capacity_foldl_push (feed : Feed Event) (later : List Event) :
    (later.foldl push feed).capacity = feed.capacity := by
  induction later generalizing feed with
  | nil => rfl
  | cons event rest inductionHypothesis =>
      rw [List.foldl_cons, inductionHypothesis]
      rfl

/-- The events kept are the newest of all. -/
theorem events_foldl_push (feed : Feed Event) (later : List Event) :
    (later.foldl push feed).events = newest feed.capacity (feed.events ++ later) := by
  induction later generalizing feed with
  | nil => simp [newest_of_length_le feed.bounded]
  | cons event rest inductionHypothesis =>
      rw [List.foldl_cons, inductionHypothesis]
      simp only [push]
      rw [newest_newest_append, List.append_assoc, List.singleton_append]

/-- Every event is either kept or counted as missed. -/
theorem missed_foldl_push (feed : Feed Event) (later : List Event) :
    (later.foldl push feed).missed =
      feed.missed + excess feed.capacity (feed.events ++ later) := by
  induction later generalizing feed with
  | nil => simp [excess, Nat.sub_eq_zero_of_le feed.bounded]
  | cons event rest inductionHypothesis =>
      rw [List.foldl_cons, inductionHypothesis]
      have short := feed.bounded
      simp only [push, excess, newest, List.length_append, List.length_drop,
        List.length_cons, List.length_nil]
      omega

end Feed

end ChatOps
