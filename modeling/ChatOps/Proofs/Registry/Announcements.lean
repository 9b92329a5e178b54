import ChatOps.Proofs.Registry.Canonical
import ChatOps.Proofs.Registry.Precedence
import ChatOps.Proofs.Session.Watching
import Mathlib.Data.List.DropRight

/-!
# What a reader of the events is told

Somebody reads the events of a registry while commands are registered by hand, the tables
are rebuilt, and commands are run.  A reader who never misses an event is told of each
registration that was accepted and of each rebuild, in the order of the calls, and of nothing
else; and what is found at a place is what the latest rebuild stored there, or else the first
handler that was accepted for it since (`announced_of_followed`).
-/

set_option autoImplicit false

namespace ChatOps

namespace Feed

variable {Event : Type} {feed : Feed Event}

/-- Whether a reader is not told of missed events. -/
def NoneMissed (notices : List (Notice Event)) : Prop := ∀ count, .missed count ∉ notices

theorem missed_eq_zero (noneMissed : NoneMissed feed.notices) : feed.missed = 0 := by
  by_contra someMissed
  refine noneMissed feed.missed ?_
  rw [notices, if_neg someMissed]
  exact List.mem_cons_self

theorem notices_of_missed (noneMissed : feed.missed = 0) :
    feed.notices = feed.events.map .event := by
  rw [notices, if_pos noneMissed, List.nil_append]

/-- An event that leaves nothing missed comes after all others. -/
theorem notices_push {event : Event} (noneMissed : NoneMissed (feed.push event).notices) :
    (feed.push event).notices = feed.notices ++ [.event event] := by
  have isZero := missed_eq_zero noneMissed
  obtain ⟨before, fits⟩ := Nat.add_eq_zero_iff.1 isZero
  have short : (feed.events ++ [event]).length ≤ feed.capacity := Nat.sub_eq_zero_iff_le.1 fits
  have kept : (feed.push event).events = feed.events ++ [event] := newest_of_length_le short
  rw [notices_of_missed isZero, notices_of_missed before, kept, List.map_append]
  rfl

theorem notices_drained : feed.drained.notices = [] := rfl

theorem NoneMissed.of_append {earlier later : List (Notice Event)}
    (noneMissed : NoneMissed (earlier ++ later)) : NoneMissed earlier ∧ NoneMissed later :=
  ⟨fun count member => noneMissed count (List.mem_append_left _ member),
    fun count member => noneMissed count (List.mem_append_right _ member)⟩

end Feed

open Feed

namespace Registry

variable {registry : Registry}

/-! ## One call -/

abbrev Registration.IsFor (registration : Registration) (address : Address) (name : String) :
    Prop :=
  registration.usage.address = address ∧ registration.usage.command = name

def accepts (registry : Registry) (registration : Registration) (handler : Handler) : Bool :=
  (registry.register? registration.usage handler).isSome

/-- The registry after a registration, whether it was accepted or not. -/
def registered (registry : Registry) (registration : Registration) (handler : Handler) :
    Registry :=
  (registry.register? registration.usage handler).getD registry

/-- What a registration does: it is accepted just if its place is free; then the handler and
the usage note are stored there, nothing else is, and there is one event, of this place; and
if it is refused, nothing changes. -/
structure Registers (registry : Registry) (registration : Registration) (handler : Handler) :
    Prop where
  accepted_iff : registry.accepts registration handler = true ↔
    Namespaces.find? registry.tables.handlers registration.usage.address
      registration.usage.command = none
  bound : registry.accepts registration handler = true → ∀ address name,
    Namespaces.find? (registry.registered registration handler).tables.handlers address name =
        (if registration.IsFor address name then some handler
          else Namespaces.find? registry.tables.handlers address name) ∧
      Namespaces.find? (registry.registered registration handler).tables.usages address name =
        if registration.IsFor address name then some registration.usage
        else Namespaces.find? registry.tables.usages address name
  announced : registry.accepts registration handler = true →
    (registry.registered registration handler).feed =
      registry.feed.push
        (.ofRegistration registration.usage.address registration.usage.command)
  refused : registry.accepts registration handler = false →
    registry.registered registration handler = registry

theorem registers (registry : Registry) (registration : Registration) (handler : Handler) :
    Registers registry registration handler := by
  cases stored : registry.tables.insert? registration.usage.address registration.usage.command
      handler (some registration.usage) with
  | none =>
      have refused : registry.accepts registration handler = false := by
        rw [accepts, register?, stored]
        rfl
      have notAccepted : registry.accepts registration handler ≠ true := by
        rw [refused]
        exact Bool.false_ne_true
      constructor
      case accepted_iff =>
        refine ⟨fun accepted => absurd accepted notAccepted, fun free => ?_⟩
        rw [Tables.insert?_of_free free] at stored
        cases stored
      case bound => exact fun accepted => absurd accepted notAccepted
      case announced => exact fun accepted => absurd accepted notAccepted
      case refused => exact fun _ => register?_refused stored
  | some tables =>
      have accepted : registry.accepts registration handler = true := by
        rw [accepts, register?, stored]
        rfl
      have after : registry.registered registration handler =
          { registry with
            tables := tables
            feed := registry.feed.push
              (.ofRegistration registration.usage.address registration.usage.command) } := by
        rw [registered, register?, stored]
        rfl
      constructor
      case accepted_iff => exact ⟨fun _ => Tables.free_of_insert? stored, fun _ => accepted⟩
      case bound =>
        intro _ address name
        rw [after]
        exact ⟨Tables.find?_handlers_insert? stored address name,
          Tables.find?_usages_insert? stored address name⟩
      case announced =>
        intro _
        rw [after]
      case refused =>
        intro refused
        cases accepted.symm.trans refused

/-- A session registers in this way, and says whether that was accepted. -/
theorem register_eq_registered (session : Session) (registration : Registration)
    (code : HandlerCode) :
    session.register registration code =
      (session.withRegistry (session.registry.registered registration (.custom code)),
        session.registry.accepts registration (.custom code)) := by
  rw [Session.register, registered, accepts]
  cases session.registry.register? registration.usage (.custom code) with
  | none => rfl
  | some after => rfl

/-! ## Many calls -/

/-- A call that is to change the tables, with what it returned. -/
inductive Call where
  | registered (registration : Registration) (handler : Handler) (accepted : Bool)
  | refreshed (store : PluginStore) (count : Nat)

namespace Call

/-- The event that a call brings about. -/
def event? : Call → Option RegistryEvent
  | .registered registration _ accepted =>
      if accepted then
        some (.ofRegistration registration.usage.address registration.usage.command)
      else none
  | .refreshed _ count => some (.rebuilt count)

def store? : Call → Option PluginStore
  | .registered _ _ _ => none
  | .refreshed store _ => some store

/-- The handler that a call was accepted with for a place. -/
def handler? (address : Address) (name : String) : Call → Option Handler
  | .registered registration handler accepted =>
      if accepted = true ∧ registration.IsFor address name then some handler else none
  | .refreshed _ _ => none

def latest? (calls : List Call) : Option PluginStore := (calls.filterMap store?).getLast?

/-- The calls since the latest rebuild. -/
def sinceLatest (calls : List Call) : List Call :=
  calls.rtakeWhile fun call => call.store?.isNone

/-- The first handler that was accepted for a place since the latest rebuild. -/
def first? (calls : List Call) (address : Address) (name : String) : Option Handler :=
  (sinceLatest calls).findSome? (handler? address name)

variable {calls : List Call} {registration : Registration} {handler : Handler}
  {accepted : Bool} {store : PluginStore} {count : Nat} {address : Address} {name : String}

theorem latest?_registered :
    latest? (calls ++ [.registered registration handler accepted]) = latest? calls := by
  rw [latest?, List.filterMap_append]
  exact congrArg List.getLast? (List.append_nil _)

theorem latest?_refreshed : latest? (calls ++ [.refreshed store count]) = some store := by
  rw [latest?, List.filterMap_append]
  exact List.getLast?_concat

theorem first?_registered :
    first? (calls ++ [.registered registration handler accepted]) address name =
      (first? calls address name).or
        (handler? address name (.registered registration handler accepted)) := by
  rw [first?, sinceLatest, List.rtakeWhile_concat_pos _ _ _ rfl, List.findSome?_append,
    List.findSome?_singleton]
  rfl

theorem first?_refreshed :
    first? (calls ++ [.refreshed store count]) address name = none := by
  rw [first?, sinceLatest, List.rtakeWhile_concat_neg _ _ _ Bool.false_ne_true]
  rfl

end Call

/-- The calls on a registry since it was built, those of them that a reader was there for,
and what the reader has received. -/
structure Transcript where
  calls : List Call
  heard : List Call
  received : List (Notice RegistryEvent)

def Transcript.add (transcript : Transcript) (call : Call) : Transcript :=
  { transcript with calls := transcript.calls ++ [call], heard := transcript.heard ++ [call] }

/-- The registries that come about from plugins, by registrations, rebuilds and running
commands, while a reader of the events, who may come at any moment, receives one notice or
all that there are at any moment. -/
inductive Followed : Transcript → Registry → Prop where
  | built (store : PluginStore) (models : ModelChoice) :
      Followed ⟨[.refreshed store (refreshCount store)], [], []⟩ (ofPlugins store models)
  | subscribed {transcript : Transcript} {registry : Registry}
      (before : Followed transcript registry) :
      Followed { transcript with heard := [], received := [] }
        { registry with feed := .empty feedCapacity }
  | registered {transcript : Transcript} {registry : Registry}
      (before : Followed transcript registry) (registration : Registration)
      (handler : Handler) :
      Followed
        (transcript.add
          (.registered registration handler (registry.accepts registration handler)))
        (registry.registered registration handler)
  | refreshed {transcript : Transcript} {registry : Registry}
      (before : Followed transcript registry) (store : PluginStore) :
      Followed (transcript.add (.refreshed store (refreshCount store)))
        (registry.refresh store)
  | called {transcript : Transcript} {registry : Registry}
      (before : Followed transcript registry) (handler : Handler) (given : Invocation) :
      Followed transcript (registry.call handler given).1
  | received {transcript : Transcript} {registry : Registry}
      {notice : Notice RegistryEvent} {later : List (Notice RegistryEvent)}
      (before : Followed transcript registry)
      (next : registry.feed.notices = notice :: later) :
      Followed { transcript with received := transcript.received ++ [notice] }
        { registry with feed := registry.feed.rest }
  | caughtUp {transcript : Transcript} {registry : Registry}
      (before : Followed transcript registry) :
      Followed { transcript with received := transcript.received ++ registry.feed.notices }
        { registry with feed := registry.feed.drained }

variable {transcript : Transcript}

theorem feed_call (handler : Handler) (given : Invocation) :
    (registry.call handler given).1.feed = registry.feed := by
  cases handler <;> rfl

/-! ## What is received -/

/-- What the reader has received, and receives next if nothing more happens. -/
def Transcript.told (transcript : Transcript) (registry : Registry) :
    List (Notice RegistryEvent) :=
  transcript.received ++ registry.feed.notices

/-- What the calls that the reader was there for bring about. -/
def Transcript.announced (transcript : Transcript) : List (Notice RegistryEvent) :=
  (transcript.heard.filterMap Call.event?).map .event

theorem Transcript.announced_add (transcript : Transcript) (call : Call) :
    (transcript.add call).announced =
      transcript.announced ++ (call.event?.map Notice.event).toList := by
  rw [announced, announced, add, List.filterMap_append, List.map_append]
  cases event : call.event? <;> simp [event]

/-- If a reader has been told of what was announced, a call that pushes its event keeps it
so. -/
theorem told_of_push {event : RegistryEvent} {after : Registry}
    (before : NoneMissed (transcript.told registry) →
      transcript.told registry = transcript.announced)
    (pushed : after.feed = registry.feed.push event)
    (noneMissed : NoneMissed (transcript.received ++ after.feed.notices)) :
    transcript.received ++ after.feed.notices = transcript.announced ++ [.event event] := by
  rw [pushed] at noneMissed ⊢
  have grown := notices_push noneMissed.of_append.2
  rw [grown, ← List.append_assoc] at noneMissed ⊢
  exact congrArg (· ++ [Notice.event event]) (before noneMissed.of_append.1)

theorem told_of_registered (registration : Registration) (handler : Handler)
    (before : NoneMissed (transcript.told registry) →
      transcript.told registry = transcript.announced)
    (noneMissed : NoneMissed
      (transcript.received ++ (registry.registered registration handler).feed.notices)) :
    transcript.received ++ (registry.registered registration handler).feed.notices =
      (transcript.add (.registered registration handler
        (registry.accepts registration handler))).announced := by
  have step := registers registry registration handler
  rw [Transcript.announced_add]
  cases decided : registry.accepts registration handler with
  | true => exact told_of_push before (step.announced decided) noneMissed
  | false =>
      rw [step.refused decided] at noneMissed ⊢
      exact (before noneMissed).trans (List.append_nil _).symm

/-- A reader who misses nothing is told of what was announced, and of nothing else. -/
theorem told_eq_announced (followed : Followed transcript registry) :
    NoneMissed (transcript.told registry) →
      transcript.told registry = transcript.announced := by
  induction followed with
  | built store models => exact fun _ => rfl
  | subscribed before inductionHypothesis => exact fun _ => rfl
  | registered before registration handler inductionHypothesis =>
      exact told_of_registered registration handler inductionHypothesis
  | @refreshed transcript registry before store inductionHypothesis =>
      intro noneMissed
      rw [Transcript.announced_add]
      exact told_of_push inductionHypothesis rfl noneMissed
  | called before handler given inductionHypothesis =>
      rw [Transcript.told, feed_call]
      exact inductionHypothesis
  | @received transcript registry notice later before next inductionHypothesis =>
      -- What is received leaves the feed, so the two together stay the same.
      have same : transcript.received ++ [notice] ++ registry.feed.rest.notices =
          transcript.told registry := by
        rw [Transcript.told, notices_rest, next, List.tail_cons, List.append_assoc,
          List.singleton_append]
      intro noneMissed
      rw [Transcript.told, same] at noneMissed ⊢
      exact inductionHypothesis noneMissed
  | @caughtUp transcript registry before inductionHypothesis =>
      intro noneMissed
      rw [Transcript.told, notices_drained, List.append_nil] at noneMissed ⊢
      exact inductionHypothesis noneMissed

/-! ## What is found -/

/-- What a place holds if the tables were built from these plugins and these calls came
after. -/
def standing? (store : PluginStore) (calls : List Call) (address : Address) (name : String) :
    Option Handler :=
  (Namespaces.find? (Tables.ofPlugins store).1.handlers address name).or
    (Call.first? calls address name)

theorem find?_registered (registration : Registration) (handler : Handler)
    (address : Address) (name : String) :
    Namespaces.find? (registry.registered registration handler).tables.handlers address name =
      (Namespaces.find? registry.tables.handlers address name).or
        (Call.handler? address name
          (.registered registration handler (registry.accepts registration handler))) := by
  have step := registers registry registration handler
  cases decided : registry.accepts registration handler with
  | false => rw [step.refused decided, Call.handler?, if_neg (by simp), Option.or_none]
  | true =>
      rw [(step.bound decided address name).1, Call.handler?]
      by_cases isFor : registration.IsFor address name
      · obtain ⟨rfl, rfl⟩ := isFor
        rw [step.accepted_iff.1 decided, if_pos ⟨rfl, rfl⟩, if_pos ⟨rfl, rfl, rfl⟩,
          Option.none_or]
      · rw [if_neg isFor, if_neg fun both => isFor both.2, Option.or_none]

/-- Every place holds what the latest rebuild stored there, or else the first handler that
was accepted for it since. -/
theorem find?_of_followed (followed : Followed transcript registry) :
    ∃ store, Call.latest? transcript.calls = some store ∧ ∀ address name,
      Namespaces.find? registry.tables.handlers address name =
        standing? store transcript.calls address name := by
  have rebuilt (calls : List Call) (store : PluginStore) (count : Nat) :
      Call.latest? (calls ++ [.refreshed store count]) = some store ∧ ∀ address name,
        Namespaces.find? (Tables.ofPlugins store).1.handlers address name =
          standing? store (calls ++ [.refreshed store count]) address name := by
    refine ⟨Call.latest?_refreshed, fun address name => ?_⟩
    rw [standing?, Call.first?_refreshed, Option.or_none]
  induction followed with
  | built store models => exact ⟨store, rebuilt [] store _⟩
  | subscribed before inductionHypothesis => exact inductionHypothesis
  | registered before registration handler inductionHypothesis =>
      obtain ⟨store, latest, found⟩ := inductionHypothesis
      refine ⟨store, Call.latest?_registered.trans latest, fun address name => ?_⟩
      rw [find?_registered, found, standing?, standing?, Option.or_assoc]
      exact congrArg (Option.or _) Call.first?_registered.symm
  | @refreshed transcript registry before store inductionHypothesis =>
      exact ⟨store, rebuilt transcript.calls store _⟩
  | called before handler given inductionHypothesis =>
      rw [tables_call]
      exact inductionHypothesis
  | received before next inductionHypothesis => exact inductionHypothesis
  | caughtUp before inductionHypothesis => exact inductionHypothesis

/-! ## The promise -/

/-- What is promised of a registry and a reader of its events. -/
structure Announced (transcript : Transcript) (registry : Registry) : Prop where
  registers : ∀ registration handler, Registers registry registration handler
  refreshes : ∀ store,
    (registry.refresh store).feed = registry.feed.push (.rebuilt (refreshCount store))
  told : NoneMissed (transcript.told registry) →
    transcript.told registry = transcript.announced
  found : ∃ store, Call.latest? transcript.calls = some store ∧ ∀ address name,
    Namespaces.find? registry.tables.handlers address name =
      standing? store transcript.calls address name

theorem announced_of_followed (followed : Followed transcript registry) :
    Announced transcript registry where
  registers := registers registry
  refreshes := fun _ => rfl
  told := told_eq_announced followed
  found := find?_of_followed followed

/-- A registration, another one for the same place, one notice that is received, a rebuild,
and the second registration again. -/
theorem announced_of_followed_greet :
    let greet : Registration := .agent "Robot " "greet"
    let other : Registration := .addressed (.agent "robot") "greet"
    let loud : Handler := .custom fun _ => .done (.error .cancelled)
    let calls : List Call := [.registered greet quiet true, .registered other loud false,
      .refreshed .empty 0, .registered other loud true]
    let greeted := ((ofPlugins .empty ⟨[], none⟩).registered greet quiet).registered other loud
    let read := { greeted with feed := greeted.feed.rest }
    let registry := (read.refresh .empty).registered other loud
    let transcript : Transcript :=
      ⟨.refreshed .empty 0 :: calls, calls, [.event (.agentCommand "robot" "greet")]⟩
    Followed transcript registry ∧
      transcript.told registry =
        [.event (.agentCommand "robot" "greet"), .event (.rebuilt 0),
          .event (.agentCommand "robot" "greet")] ∧
      Namespaces.find? registry.tables.handlers (.agent "robot") "greet" = some loud := by
  intro greet other loud calls greeted read registry transcript
  let fresh := ofPlugins .empty ⟨[], none⟩
  have first : fresh.accepts greet quiet = true := by decide +kernel
  have second : (fresh.registered greet quiet).accepts other loud = false := by decide +kernel
  have third : (read.refresh .empty).accepts other loud = true := by decide +kernel
  have robot : greet.usage.address = .agent "robot" := by decide +kernel
  have greetedFeed : greeted.feed = fresh.feed.push (.agentCommand "robot" "greet") := by
    have accepted := (registers fresh greet quiet).announced first
    have refused := (registers (fresh.registered greet quiet) other loud).refused second
    rw [robot] at accepted
    exact (congrArg Registry.feed refused).trans accepted
  have next : greeted.feed.notices = [.event (.agentCommand "robot" "greet")] := by
    rw [greetedFeed]
    rfl
  have followed : Followed transcript registry := by
    have course := Followed.registered (.refreshed (.received (.registered (.registered
      (.built .empty ⟨[], none⟩) greet quiet) other loud) next) .empty) other loud
    rw [first, second, third] at course
    exact course
  have readFeed : read.feed = fresh.feed := by
    have rest : read.feed = greeted.feed.rest := rfl
    rw [rest, greetedFeed]
    rfl
  have noneMissed : NoneMissed (transcript.told registry) := by
    have registryFeed := (registers (read.refresh .empty) other loud).announced third
    have refreshedFeed : (read.refresh .empty).feed = read.feed.push (.rebuilt 0) := rfl
    rw [refreshedFeed, readFeed] at registryFeed
    have twoEvents (event last : RegistryEvent) :
        ((fresh.feed.push event).push last).notices = [.event event, .event last] := by
      simp [fresh, ofPlugins, notices, push, excess, newest, Feed.empty, feedCapacity]
    rw [Transcript.told, registryFeed, twoEvents]
    simp [NoneMissed, transcript]
  have announced := announced_of_followed followed
  obtain ⟨store, latest, found⟩ := announced.found
  refine ⟨followed, ?_, ?_⟩
  · rw [announced.told noneMissed]
    exact congrArg (fun address => [Notice.event (RegistryEvent.ofRegistration address "greet"),
      .event (.rebuilt 0), .event (.agentCommand "robot" "greet")]) robot
  · have since : Call.sinceLatest transcript.calls = [.registered other loud true] := rfl
    have kept : Call.first? transcript.calls (.agent "robot") "greet" = some loud := by
      rw [Call.first?, since, List.findSome?_singleton, Call.handler?]
      exact if_pos ⟨rfl, rfl, rfl⟩
    have free : Namespaces.find? (Tables.ofPlugins .empty).1.handlers (.agent "robot") "greet" =
        none := by decide +kernel
    cases (Option.some.inj latest : PluginStore.empty = store)
    rw [found, standing?, free, kept, Option.none_or]

end Registry

end ChatOps
