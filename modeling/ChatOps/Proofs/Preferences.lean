import ChatOps.Preferences
import ChatOps.Proofs.Json.Equality
import ChatOps.Proofs.Repetitions
import Mathlib.Data.List.Basic
import Mathlib.Data.List.Induction

/-!
# Preferred arguments

Argument lists are recorded one after another, each under a plugin and a command.  What is
kept for a command, the latest first, is what one gets by going through all recordings for
it from the latest to the first, leaving out repetitions, and stopping at the capacity
(`recent_recordAll`).  Cutting down to the capacity at every recording loses nothing, for a
recording brings forward at most one of the lists that are kept.  Said without going through
the recordings: what is kept are the newest of the distinct lists, each counted where it was
recorded for the last time (`recent_newestFirst`).
-/

set_option autoImplicit false

namespace ChatOps

/-! ## Cutting down -/

section Cutting

variable {Item : Type}

/-- Where at most one item goes, cutting one later makes up for it. -/
theorem take_filter_take {keep : Item → Bool} {items : List Item}
    (atMostOne : items.Pairwise fun first second => keep first = true ∨ keep second = true)
    (most : Nat) :
    ((items.take (most + 1)).filter keep).take most = (items.filter keep).take most := by
  induction items generalizing most with
  | nil => rfl
  | cons first rest inductionHypothesis =>
      obtain ⟨others, restAtMostOne⟩ := List.pairwise_cons.1 atMostOne
      rw [List.take_succ_cons, List.filter_cons, List.filter_cons]
      cases kept : keep first with
      | true =>
          cases most with
          | zero => rw [List.take_zero, List.take_zero]
          | succ most =>
              rw [if_pos rfl, if_pos rfl, List.take_succ_cons, List.take_succ_cons,
                inductionHypothesis restAtMostOne]
      | false =>
          -- This is the one item that goes, so that all others may stay.
          have allKept : ∀ other ∈ rest, keep other = true := fun other member =>
            (others other member).resolve_left (by rw [kept]; exact Bool.false_ne_true)
          have someKept : ∀ other ∈ rest.take most, keep other = true := fun other member =>
            allKept other (List.mem_of_mem_take member)
          rw [if_neg Bool.false_ne_true, if_neg Bool.false_ne_true,
            List.filter_eq_self.2 allKept, List.filter_eq_self.2 someKept, List.take_take,
            Nat.min_self]

end Cutting

namespace Preferences

/-- The argument lists without repetitions; the first of equal ones stays. -/
def distinct (lists : List ArgumentList) : List ArgumentList := lists.eraseDupsBy Json.sameItems

/-- One more list in front pushes out the list equal to it. -/
theorem distinct_cons (args : ArgumentList) (lists : List ArgumentList) :
    distinct (args :: lists) =
      args :: (distinct lists).filter fun older => !Json.sameItems older args := by
  have closed : ∀ first second : ArgumentList, Json.sameItems second first = true →
      (!Json.sameItems second args) = true → (!Json.sameItems first args) = true := by
    intro first second equal apart
    cases firstEqual : Json.sameItems first args with
    | false => rfl
    | true =>
        rw [Json.sameItems_trans second first args equal firstEqual] at apart
        cases apart
  rw [distinct, distinct, List.eraseDupsBy_cons, filter_eraseDupsBy closed]
  congr 3
  funext older
  cases Json.sameItems older args <;> rfl

/-- Remembering a list in what was cut down gives what is cut down of all. -/
theorem remember_take (most : Nat) (args : ArgumentList) (lists : List ArgumentList) :
    remember (most + 1) args ((distinct lists).take (most + 1)) =
      (distinct (args :: lists)).take (most + 1) := by
  have atMostOne : (distinct lists).Pairwise fun first second =>
      (!Json.sameItems first args) = true ∨ (!Json.sameItems second args) = true := by
    -- Two lists that are both equal to the new one would be equal to each other.
    refine (pairwise_eraseDupsBy lists).imp ?_
    intro first second apart
    cases firstEqual : Json.sameItems first args with
    | false => exact .inl rfl
    | true =>
        cases secondEqual : Json.sameItems second args with
        | false => exact .inr rfl
        | true =>
            have backwards := Json.sameItems_symm first args firstEqual
            have both := Json.sameItems_trans second args first secondEqual backwards
            rw [apart] at both
            cases both
  rw [distinct_cons, remember, List.take_succ_cons, List.take_succ_cons,
    take_filter_take atMostOne]

/-! ## Recordings -/

/-- An argument list that is recorded for a command of a plugin. -/
structure Recording where
  plugin : String
  command : String
  args : ArgumentList

/-- Record one list after another. -/
def recordAll (preferences : Preferences) (recordings : List Recording) : Preferences :=
  recordings.foldl
    (fun current recording =>
      current.record recording.plugin recording.command recording.args) preferences

/-- The list of a recording for a command, unless it is empty. -/
def Recording.under? (plugin command : String) (recording : Recording) : Option ArgumentList :=
  if (recording.plugin, recording.command) = (plugin, command) ∧ recording.args ≠ [] then
    some recording.args
  else none

/-- The lists recorded for a command that are not empty, the latest first and no list
twice. -/
def latest (plugin command : String) (recordings : List Recording) : List ArgumentList :=
  distinct (recordings.filterMap (Recording.under? plugin command)).reverse

theorem latest_concat (plugin command : String) (recordings : List Recording)
    (recording : Recording) :
    latest plugin command (recordings ++ [recording]) =
      match recording.under? plugin command with
      | some args =>
          distinct (args :: (recordings.filterMap (Recording.under? plugin command)).reverse)
      | none => latest plugin command recordings := by
  rw [latest, List.filterMap_append]
  cases found : recording.under? plugin command with
  | none => simp [found, latest]
  | some args => simp [found]

theorem capacity_record (preferences : Preferences) (plugin command : String)
    (args : ArgumentList) : (preferences.record plugin command args).capacity =
      preferences.capacity := by
  rw [record]
  split <;> rfl

/-- Recording for one command changes nothing for another. -/
theorem recent_record_of_ne (preferences : Preferences) {plugin command : String}
    {recording : Recording}
    (other : (recording.plugin, recording.command) ≠ (plugin, command)) :
    (preferences.record recording.plugin recording.command recording.args).recent plugin
      command = preferences.recent plugin command := by
  rw [record]
  split
  · rw [recent, SortedMap.get?_insert, if_neg other]
    rfl
  · rfl

theorem recent_record (preferences : Preferences) (plugin command : String)
    (args : ArgumentList) (accepts : preferences.accepts args = true) :
    (preferences.record plugin command args).recent plugin command =
      remember preferences.capacity args (preferences.recent plugin command) := by
  rw [record, if_pos accepts, recent, SortedMap.get?_insert, if_pos rfl]
  rfl

theorem capacity_recordAll (preferences : Preferences) (recordings : List Recording) :
    (preferences.recordAll recordings).capacity = preferences.capacity := by
  induction recordings generalizing preferences with
  | nil => rfl
  | cons recording rest inductionHypothesis =>
      exact (inductionHypothesis _).trans (capacity_record ..)

theorem recordAll_concat (preferences : Preferences) (recordings : List Recording)
    (recording : Recording) :
    preferences.recordAll (recordings ++ [recording]) =
      (preferences.recordAll recordings).record recording.plugin recording.command
        recording.args := by
  simp [recordAll]

/-- What is kept for a command is the latest of all that was recorded for it. -/
theorem recent_recordAll (capacity : Nat) (recordings : List Recording)
    (plugin command : String) :
    ((empty capacity).recordAll recordings).recent plugin command =
      (latest plugin command recordings).take capacity := by
  induction recordings using List.reverseRecOn with
  | nil => exact List.take_nil.symm
  | append_singleton earlier recording inductionHypothesis =>
      have size := capacity_recordAll (empty capacity) earlier
      rw [recordAll_concat, latest_concat]
      generalize (empty capacity).recordAll earlier = before at inductionHypothesis size
      change before.capacity = capacity at size
      by_cases here : (recording.plugin, recording.command) = (plugin, command)
      · obtain ⟨rfl, rfl⟩ := Prod.mk.inj here
        cases isEmpty : recording.args with
        | nil => simpa [Recording.under?, isEmpty, record, accepts] using inductionHypothesis
        | cons first others =>
            -- Only the recording of a list that is not empty can change anything.
            have nonempty : recording.args ≠ [] := by simp [isEmpty]
            have under : recording.under? recording.plugin recording.command =
                some recording.args := if_pos ⟨rfl, nonempty⟩
            rw [← isEmpty, under]
            cases capacity with
            | zero =>
                rw [List.take_zero] at inductionHypothesis ⊢
                rw [record, if_neg (by simp [accepts, size])]
                exact inductionHypothesis
            | succ most =>
                rw [recent_record _ _ _ _ (by simp [accepts, size, nonempty]),
                  inductionHypothesis, size, latest]
                exact remember_take most recording.args _
      · have under : recording.under? plugin command = none := if_neg fun both => here both.1
        rw [recent_record_of_ne before here, under]
        exact inductionHypothesis

/-! ## The order of what is kept -/

/-- Whether a list equal to this one was recorded for a command. -/
def IsUsed (plugin command : String) (args : ArgumentList) (recordings : List Recording) : Prop :=
  ∃ recording ∈ recordings, ∃ other,
    recording.under? plugin command = some other ∧ Json.sameItems other args = true

/-- Whether these are the distinct lists that were recorded for a command and are not empty,
in the order in which each was recorded for the last time, the newest first. -/
structure NewestFirst (plugin command : String) (recordings : List Recording)
    (lists : List ArgumentList) : Prop where
  last : ∀ args ∈ lists, ∃ earlier recording later,
    recordings = earlier ++ recording :: later ∧
      recording.under? plugin command = some args ∧ ¬IsUsed plugin command args later
  complete : ∀ recording ∈ recordings, ∀ args, recording.under? plugin command = some args →
    ∃ kept ∈ lists, Json.sameItems kept args = true
  ordered : lists.Pairwise fun newer older => ∃ earlier later,
    recordings = earlier ++ later ∧ IsUsed plugin command newer later ∧
      ¬IsUsed plugin command older later

variable {plugin command : String} {recordings : List Recording} {recording : Recording}

theorem isUsed_concat_iff {args : ArgumentList} :
    IsUsed plugin command args (recordings ++ [recording]) ↔
      IsUsed plugin command args recordings ∨
        ∃ other, recording.under? plugin command = some other ∧
          Json.sameItems other args = true := by
  simp only [IsUsed, List.mem_append, List.mem_singleton, or_and_right, exists_or,
    exists_eq_left]

/-- Lists that a recording leaves alone stay where they are in the order. -/
theorem NewestFirst.kept {lists : List ArgumentList}
    (newestFirst : NewestFirst plugin command recordings lists)
    (keep : ArgumentList → Bool)
    (apart : ∀ args, keep args = true → ∀ other,
      recording.under? plugin command = some other → Json.sameItems other args ≠ true) :
    (∀ args ∈ lists.filter keep, ∃ earlier last later,
      recordings ++ [recording] = earlier ++ last :: later ∧
        last.under? plugin command = some args ∧ ¬IsUsed plugin command args later) ∧
    (lists.filter keep).Pairwise fun newer older => ∃ earlier later,
      recordings ++ [recording] = earlier ++ later ∧ IsUsed plugin command newer later ∧
        ¬IsUsed plugin command older later := by
  have unused : ∀ args, keep args = true → ∀ later, ¬IsUsed plugin command args later →
      ¬IsUsed plugin command args (later ++ [recording]) := by
    intro args kept later notUsed used
    rcases isUsed_concat_iff.1 used with before | ⟨other, under, same⟩
    · exact notUsed before
    · exact apart args kept other under same
  constructor
  · intro args member
    obtain ⟨isMember, isKept⟩ := List.mem_filter.1 member
    obtain ⟨earlier, last, later, rfl, under, notUsed⟩ := newestFirst.last args isMember
    exact ⟨earlier, last, later ++ [recording], by simp, under,
      unused args isKept later notUsed⟩
  · refine (newestFirst.ordered.filter keep).imp_of_mem ?_
    rintro newer older _ olderMember ⟨earlier, later, rfl, used, notUsed⟩
    exact ⟨earlier, later ++ [recording], by simp, isUsed_concat_iff.2 (.inl used),
      unused older (List.mem_filter.1 olderMember).2 later notUsed⟩

theorem newestFirst_latest (plugin command : String) (recordings : List Recording) :
    NewestFirst plugin command recordings (latest plugin command recordings) := by
  induction recordings using List.reverseRecOn with
  | nil => exact ⟨by simp [latest, distinct], by simp, by simp [latest, distinct]⟩
  | append_singleton earlier recording inductionHypothesis =>
      rw [latest_concat]
      cases under : recording.under? plugin command with
      | none =>
          have apart : ∀ args : ArgumentList, true = true → ∀ other,
              recording.under? plugin command = some other →
                Json.sameItems other args ≠ true := by simp [under]
          have kept := inductionHypothesis.kept (fun _ => true) apart
          rw [List.filter_true] at kept
          refine ⟨kept.1, ?_, kept.2⟩
          intro other member args underOther
          rcases List.mem_append.1 member with before | isLast
          · exact inductionHypothesis.complete other before args underOther
          · rw [List.mem_singleton.1 isLast, under] at underOther
            cases underOther
      | some args =>
          have apart : ∀ older, (!Json.sameItems older args) = true → ∀ other,
              recording.under? plugin command = some other →
                Json.sameItems other older ≠ true := by
            intro older kept other underOther same
            rw [under] at underOther
            cases underOther
            rw [Json.sameItems_symm args older same] at kept
            cases kept
          have kept := inductionHypothesis.kept _ apart
          have mine : IsUsed plugin command args [recording] :=
            ⟨recording, List.mem_singleton_self _, args, under, Json.sameItems_refl args⟩
          dsimp only
          rw [distinct_cons, ← latest]
          refine ⟨?_, ?_, List.pairwise_cons.2 ⟨?_, kept.2⟩⟩
          · intro other member
            rcases List.mem_cons.1 member with rfl | older
            · exact ⟨earlier, recording, [], rfl, under, by simp [IsUsed]⟩
            · exact kept.1 other older
          · intro other member asked underOther
            rcases List.mem_append.1 member with before | isLast
            · obtain ⟨older, isOlder, same⟩ :=
                inductionHypothesis.complete other before asked underOther
              cases pushedOut : Json.sameItems older args with
              | true =>
                  have backwards := Json.sameItems_symm older args pushedOut
                  exact ⟨args, List.mem_cons_self, Json.sameItems_trans args older asked backwards
                    same⟩
              | false =>
                  refine ⟨older, List.mem_cons_of_mem args ?_, same⟩
                  exact List.mem_filter.2 ⟨isOlder, by simp [pushedOut]⟩
            · rw [List.mem_singleton.1 isLast, under] at underOther
              cases underOther
              exact ⟨args, List.mem_cons_self, Json.sameItems_refl args⟩
          · intro older member
            refine ⟨earlier, [recording], rfl, mine, ?_⟩
            rintro ⟨last, isLast, other, underOther, same⟩
            rw [List.mem_singleton.1 isLast] at underOther
            exact apart older (List.mem_filter.1 member).2 other underOther same

/-- What is kept for a command are the newest of the lists recorded for it, no two of them
equal, and a recording for another command changes nothing. -/
theorem recent_newestFirst (capacity : Nat) (recordings : List Recording)
    (plugin command : String) :
    let preferences := (empty capacity).recordAll recordings
    let recent := preferences.recent plugin command
    (∃ lists, NewestFirst plugin command recordings lists ∧ recent = lists.take capacity) ∧
      (recent.Pairwise fun newer older => Json.sameItems older newer = false) ∧
      ∀ other : Recording, (other.plugin, other.command) ≠ (plugin, command) →
        (preferences.record other.plugin other.command other.args).recent plugin command =
          recent := by
  intro preferences recent
  have all : recent = (latest plugin command recordings).take capacity :=
    recent_recordAll capacity recordings plugin command
  refine ⟨⟨_, newestFirst_latest plugin command recordings, all⟩, ?_, ?_⟩
  · rw [all]
    exact (pairwise_eraseDupsBy _).sublist (List.take_sublist capacity _)
  · intro other elsewhere
    exact recent_record_of_ne preferences elsewhere

end Preferences

end ChatOps
