import ChatOps.Executions
import Mathlib.Data.List.Forall2

/-!
# Logs of executions

What happens to executions as seen from outside, in the order in which it happens:
executions begin and settle, and are cancelled one by one or all at once.  Whether an
execution is in flight, cancelled or pending is read off the log alone.
-/

set_option autoImplicit false

namespace ChatOps

structure Launch where
  serial : Nat
  id : ExecutionId
  command : Command

def Flight.launch (flight : Flight) : Launch := ⟨flight.serial, flight.id, flight.command⟩

/-- What can be seen of executions.  A settled execution returns its reply, the
cancellation of an identifier says whether it was pending, and the cancellation of
everything counts what was. -/
inductive Happening where
  | began (launch : Launch)
  | settled (serial : Nat) (reply : Reply)
  | cancelled (id : ExecutionId) (found : Bool)
  | cancelledAll (count : Nat)

/-- Whether executions under an identifier are cancelled. -/
def Happening.Cancels (id : ExecutionId) : Happening → Prop
  | .cancelled other _ => other = id
  | .cancelledAll _ => True
  | _ => False

abbrev Log := List Happening

namespace Log

/-- Whether an execution has begun and not settled. -/
def InFlight (log : Log) (launch : Launch) : Prop :=
  .began launch ∈ log ∧ ∀ reply, .settled launch.serial reply ∉ log

/-- Whether an execution has been cancelled since it began. -/
def Cancelled (log : Log) (launch : Launch) : Prop :=
  ∃ happening : Happening, happening.Cancels launch.id ∧
    [.began launch, happening].Sublist log

/-- Whether an execution under the identifier has begun, and neither settled nor been
cancelled. -/
def Pending (log : Log) (id : ExecutionId) : Prop :=
  ∃ launch : Launch, launch.id = id ∧ InFlight log launch ∧ ¬ Cancelled log launch

/-- The executions that have settled, with what they returned. -/
def settlements (log : Log) : List (Nat × Reply) :=
  log.filterMap fun
    | .settled serial reply => some (serial, reply)
    | _ => none

/-- Whether a record tells of a settled execution: the identifier and the command that
it was begun with, and the reply that it returned. -/
def IsRecorded (log : Log) (settlement : Nat × Reply) (record : ExecutionRecord) : Prop :=
  .began ⟨settlement.1, record.id, record.command⟩ ∈ log ∧ record.reply = settlement.2

/-! ## One more happening -/

variable {log : Log} {launch : Launch} {happening : Happening}

theorem sublist_concat_iff {Item : Type} (front items : List Item) (last next : Item) :
    (front ++ [last]).Sublist (items ++ [next]) ↔
      (front ++ [last]).Sublist items ∨ front.Sublist items ∧ last = next := by
  constructor
  · intro sublist
    obtain ⟨first, second, split, inItems, atEnd⟩ := List.sublist_append_iff.1 sublist
    rcases List.sublist_singleton.1 atEnd with rfl | rfl
    · left
      rw [split, List.append_nil]
      exact inItems
    · right
      obtain ⟨same, equal⟩ := List.append_inj' split rfl
      rw [same]
      exact ⟨inItems, List.head_eq_of_cons_eq equal⟩
  · rintro (inside | ⟨inside, rfl⟩)
    · exact inside.trans (List.sublist_append_left items [next])
    · exact inside.append_right [last]

theorem sublist_triple_concat_iff {first second third : Happening} :
    [first, second, third].Sublist (log ++ [happening]) ↔
      [first, second, third].Sublist log ∨
        [first, second].Sublist log ∧ third = happening :=
  sublist_concat_iff [first, second] log third happening

theorem cancelled_concat_iff :
    Cancelled (log ++ [happening]) launch ↔
      Cancelled log launch ∨ .began launch ∈ log ∧ happening.Cancels launch.id := by
  have pair (other : Happening) := sublist_concat_iff [.began launch] log other happening
  simp only [List.cons_append, List.nil_append, List.singleton_sublist] at pair
  constructor
  · rintro ⟨other, cancels, sublist⟩
    rcases (pair other).1 sublist with older | ⟨begun, rfl⟩
    · exact .inl ⟨other, cancels, older⟩
    · exact .inr ⟨begun, cancels⟩
  · rintro (⟨other, cancels, older⟩ | ⟨begun, cancels⟩)
    · exact ⟨other, cancels, (pair other).2 (.inl older)⟩
    · exact ⟨happening, cancels, (pair happening).2 (.inr ⟨begun, rfl⟩)⟩

theorem Cancelled.began (cancelled : Cancelled log launch) : .began launch ∈ log := by
  obtain ⟨happening, _, sublist⟩ := cancelled
  exact sublist.subset List.mem_cons_self

theorem inFlight_concat_settled_iff {serial : Nat} {reply : Reply} :
    InFlight (log ++ [.settled serial reply]) launch ↔
      InFlight log launch ∧ launch.serial ≠ serial := by
  simp only [InFlight, List.mem_append, List.mem_singleton, reduceCtorEq, or_false,
    Happening.settled.injEq, not_or, not_and, and_assoc]
  constructor
  · rintro ⟨begun, unsettled⟩
    exact ⟨begun, fun other => (unsettled other).1, fun same => (unsettled reply).2 same rfl⟩
  · rintro ⟨begun, unsettled, different⟩
    exact ⟨begun, fun other => ⟨unsettled other, fun same => absurd same different⟩⟩

theorem inFlight_concat_iff (noBegin : ∀ other, happening ≠ .began other)
    (noSettle : ∀ serial reply, happening ≠ .settled serial reply) :
    InFlight (log ++ [happening]) launch ↔ InFlight log launch := by
  have noBegin' := fun other => (noBegin other).symm
  have noSettle' := fun serial reply => (noSettle serial reply).symm
  simp [InFlight, noBegin', noSettle']

theorem settlements_concat_settled (serial : Nat) (reply : Reply) :
    settlements (log ++ [.settled serial reply]) = settlements log ++ [(serial, reply)] := by
  simp [settlements]

theorem settlements_concat (noSettle : ∀ serial reply, happening ≠ .settled serial reply) :
    settlements (log ++ [happening]) = settlements log := by
  cases happening with
  | settled serial reply => exact absurd rfl (noSettle serial reply)
  | _ => simp [settlements]

theorem mem_settlements {serial : Nat} {reply : Reply} :
    (serial, reply) ∈ settlements log ↔ .settled serial reply ∈ log := by
  simp only [settlements, List.mem_filterMap]
  constructor
  · rintro ⟨happening, member, same⟩
    cases happening <;> cases same
    exact member
  · intro member
    exact ⟨_, member, rfl⟩

theorem IsRecorded.concat {settlement : Nat × Reply} {record : ExecutionRecord}
    (recorded : IsRecorded log settlement record) (happening : Happening) :
    IsRecorded (log ++ [happening]) settlement record :=
  ⟨List.mem_append_left _ recorded.1, recorded.2⟩

end Log

end ChatOps
