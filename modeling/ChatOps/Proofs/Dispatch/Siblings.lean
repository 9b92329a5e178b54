import ChatOps.Proofs.Dispatch.Routing
import ChatOps.Proofs.Registry.Suggestions

/-!
# Siblings of unknown commands

A command of a domain may be unknown at once, or a plugin that was asked may say in the end
that it does not support it.  As long as the tables and the plugins stay the same meanwhile,
the reply offers the names of the domain that are nearest to the one that was asked for,
and each text that is offered invokes the handler that is registered under its name
(`offersSiblings_of_proceeds`).  A colon in such a name is no obstacle, unless it stands at
an end, for the parts that the text is parsed to are put together again when the handler is
sought.
-/

set_option autoImplicit false

namespace ChatOps

theorem Routine.eq_of_ends_done {Result : Type} {result other : Result}
    (ends : (Routine.done result).Ends other) : other = result := by
  cases ends with
  | finished isOpen cancelled step =>
      cases step
      rfl
  | later isOpen cancelled step after => cases step

namespace Dispatch

open ChatOps.Command

variable {tables : Tables} {store : PluginStore} {command : Command} {handler : Handler}
  {registry : Registry} {unknown : Miss}

/-! ## Unknown commands -/

theorem tables_start (registry : Registry) (todo : Dispatch) :
    (todo.start registry).1.tables = registry.tables := by
  cases todo with
  | invoke handler given => exact Registry.tables_call handler given
  | delegate plugin given otherwise => rfl
  | unavailable plugin availability => rfl
  | unknown miss => rfl

theorem ofHandler_ne_miss (outcome : HandlerOutcome) :
    ofHandler outcome ≠ .error (.miss unknown) := by
  cases outcome <;> exact nofun

/-- Only a plugin that is asked without a handler can turn out not to know a command, and
otherwise there is nobody to be asked. -/
theorem unmatched_of_ends_miss
    (ends : ((ofCommand tables store command).start registry).2.Ends (.error (.miss unknown))) :
    Admitted store command ∧ match? tables command = none ∧ unknown = miss command := by
  by_cases admitted : Admitted store command
  · refine ⟨admitted, ?_⟩
    rw [ofCommand_of_admitted admitted] at ends
    cases found : match? tables command with
    | some hit =>
        -- Whatever a handler fails with, it is not that the command is unknown.
        rw [found] at ends
        obtain ⟨outcome, _, same⟩ := ends.of_map
        exact absurd same (ofHandler_ne_miss outcome)
    | none =>
        refine ⟨rfl, ?_⟩
        rw [found] at ends
        cases consults : consulted? store command with
        | some owner =>
            rw [consults] at ends
            obtain ⟨outcome, _, same⟩ := ends.of_map
            rcases outcome with (_ | _ | _) | _ <;> cases same
            rfl
        | none =>
            rw [consults] at ends
            cases Routine.eq_of_ends_done ends
            rfl
  · simp only [Admitted, not_forall] at admitted
    obtain ⟨plugin, consults, unready⟩ := admitted
    rw [ofCommand_of_unready consults unready] at ends
    cases Routine.eq_of_ends_done ends

/-! ## Executions in one state -/

/-- How far an execution of a command has come that began and went on in states with these
tables and plugins, and whether it was cancelled by then. -/
inductive Proceeds (tables : Tables) (store : PluginStore) (command : Command) :
    Stage → Bool → Routine.Progress Outcome → Prop where
  | begun (engine : Engine) (around : Surroundings) (id : ExecutionId)
      (sameTables : engine.registry.tables = tables) (sameStore : around.store = store)
      {cancelled : Bool} {progress : Routine.Progress Outcome}
      (step : ((ofCommand tables store command).start engine.registry).2.advance
        around.openGates.contains false = (cancelled, progress)) :
      Proceeds tables store command (engine.execute around id command).2 cancelled progress
  | resumed {serial : Nat} {routine : Routine Outcome} {earlier cancelled : Bool}
      {progress : Routine.Progress Outcome}
      (before : Proceeds tables store command (.waiting serial routine) earlier
        (.waiting routine)) (engine : Engine) (around : Surroundings)
      (sameTables : engine.registry.tables = tables) (sameStore : around.store = store)
      {flight : Flight} (underWay : engine.executions.flight? serial = some flight)
      (step : routine.advance around.openGates.contains flight.cancelled =
        (cancelled, progress)) :
      Proceeds tables store command (engine.resume around serial routine).2 cancelled progress

/-- Where an execution stands whose code has come so far. -/
def IsAt (tables : Tables) (stage : Stage) (cancelled : Bool) :
    Routine.Progress Outcome → Prop
  | .waiting rest => ∃ serial, stage = .waiting serial rest
  | .finished outcome => ∃ (engine : Engine) (store : PluginStore) (command : Command),
      engine.registry.tables = tables ∧
        stage = .settled
          (if cancelled then .cancelled else engine.produced store command outcome)

/-- Whether code that has come so far can only end as some other code does. -/
def Continues (code : Routine Outcome) : Routine.Progress Outcome → Prop
  | .waiting rest => ∀ outcome, rest.Ends outcome → code.Ends outcome
  | .finished outcome => code.Ends outcome

variable {stage : Stage} {cancelled : Bool} {progress : Routine.Progress Outcome}

theorem isAt_advance {engine : Engine} (sameTables : engine.registry.tables = tables)
    (around : Surroundings) (flight : Flight) {routine : Routine Outcome}
    (step : routine.advance around.openGates.contains flight.cancelled =
      (cancelled, progress)) :
    IsAt tables (engine.advance around flight routine).2 cancelled progress := by
  rw [Engine.advance, step]
  cases progress with
  | waiting rest => exact ⟨flight.serial, rfl⟩
  | finished outcome => exact ⟨engine, around.store, flight.command, sameTables, rfl⟩

theorem Proceeds.isAt (proceeds : Proceeds tables store command stage cancelled progress) :
    IsAt tables stage cancelled progress := by
  cases proceeds with
  | begun engine around id sameTables sameStore step =>
      rw [Engine.execute, sameTables, sameStore]
      exact isAt_advance ((tables_start _ _).trans sameTables) around _ step
  | resumed before engine around sameTables sameStore underWay step =>
      rw [Engine.resume, underWay]
      exact isAt_advance sameTables around _ step

theorem continues_of_advance {isOpen : String → Bool} {earlier : Bool}
    {routine : Routine Outcome} (step : routine.advance isOpen earlier = (cancelled, progress)) :
    Continues routine progress := by
  have progressed : (routine.advance isOpen earlier).2 = progress := congrArg Prod.snd step
  cases progress with
  | waiting rest => exact fun outcome ends => .later isOpen earlier progressed ends
  | finished outcome => exact .finished isOpen earlier progressed

theorem Continues.trans {code routine : Routine Outcome}
    (earlier : Continues code (.waiting routine)) (later : Continues routine progress) :
    Continues code progress := by
  cases progress with
  | waiting rest => exact fun outcome ends => earlier outcome (later outcome ends)
  | finished outcome => exact earlier outcome later

theorem Proceeds.continues (proceeds : Proceeds tables store command stage cancelled progress) :
    ∃ registry, Continues ((ofCommand tables store command).start registry).2 progress := by
  induction proceeds with
  | begun engine around id sameTables sameStore step =>
      exact ⟨engine.registry, continues_of_advance step⟩
  | resumed before engine around sameTables sameStore underWay step inductionHypothesis =>
      obtain ⟨registry, continues⟩ := inductionHypothesis
      exact ⟨registry, continues.trans (continues_of_advance step)⟩

/-! ## Texts of domain commands -/

/-- A name that can be written behind a domain: one plain word without a colon at its
ends. -/
structure IsWritable (name : String) : Prop where
  plain : IsPlain name
  first : name.toList.head? ≠ some ':'
  last : name.toList.getLast? ≠ some ':'

theorem isPlain_name (domain : Domain) : IsPlain domain.name := by
  cases domain <;> exact .of_all (by decide) (by decide +kernel)

theorem IsWritable.split {name : String} (writable : IsWritable name) (colon : ':' ∈ name.toList) :
    ∃ segment sub, IsSegment segment ∧ sub ≠ "" ∧ name = segment ++ ":" ++ sub := by
  cases cut : Text.cut? ':' name.toList with
  | none => exact absurd colon (Text.cut?_eq_none_iff.1 cut)
  | some halves =>
      obtain ⟨before, after⟩ := halves
      obtain ⟨whole, absent⟩ := Text.cut?_eq_some cut
      refine ⟨String.ofList before, String.ofList after, ⟨?_, ?_⟩, ?_, ?_⟩
      · intro empty
        have noChars : before = [] := String.ofList_eq_empty_iff.1 empty
        apply writable.first
        rw [whole, noChars]
        rfl
      · rw [String.toList_ofList]
        exact absent
      · intro empty
        have noChars : after = [] := String.ofList_eq_empty_iff.1 empty
        apply writable.last
        rw [whole, noChars, List.getLast?_concat]
      · rw [← String.toList_inj, whole]
        simp

/-- The text of a domain command is parsed to a command for which the handler is found. -/
theorem exists_parse_of_find? {domain : Domain} {name : String} (writable : IsWritable name)
    (stored : Namespaces.find? tables.handlers (.domain domain) name = some handler) :
    ∃ read given, Command.parse ("@" ++ domain.name ++ ":" ++ name) = .ok read ∧
      read.domain = some domain ∧ match? tables read = some ⟨handler, given⟩ := by
  have named : Domain.named? domain.name = some domain := by
    rw [Domain.named?_eq_some_iff, Domain.trimmed_name, Domain.asciiLower_name]
  have absent := Domain.colon_notMem_name domain
  have plain : IsPlain ("@" ++ domain.name ++ ":" ++ name) :=
    ((isPlain_at.append (isPlain_name domain)).append isPlain_colon).append writable.plain
  have found : tables.handler? (.domain domain) name = some handler :=
    Tables.handler?_of_find? stored
  by_cases colon : ':' ∈ name.toList
  · obtain ⟨segment, sub, isSegment, nonempty, rfl⟩ := writable.split colon
    have someSub : some sub ≠ some "" := fun same => nonempty (Option.some.inj same)
    have behind : (segment ++ ":" ++ sub).toList = segmentChars segment (some sub) := by
      simp [segmentChars]
    have parsed := parse_addressed plain (isPlain_name domain) absent isSegment someSub behind
    have inDomain := domain_ofTarget named segment
      ("@" ++ domain.name ++ ":" ++ (segment ++ ":" ++ sub)) (some sub)
    refine ⟨_, _, parsed, inDomain, match?_of_qualified inDomain ?_ found⟩
    simp only [qualifiedName, Command.withArguments, name_ofTarget, Option.map_some]
  · have isSegment : IsSegment name := ⟨writable.plain.nonempty, colon⟩
    have noSub : (none : Option String) ≠ some "" := by decide
    have parsed := parse_addressed plain (isPlain_name domain) absent isSegment noSub rfl
    have inDomain := domain_ofTarget named name ("@" ++ domain.name ++ ":" ++ name) none
    have placed := place?_ofTarget domain.name name ("@" ++ domain.name ++ ":" ++ name) none
    rw [Registry.resolve_name] at placed
    rw [← name_withArguments_ofTarget domain.name name ("@" ++ domain.name ++ ":" ++ name) none]
      at found
    exact ⟨_, _, parsed, inDomain, match?_of_handler? rfl placed found⟩

/-! ## What is offered -/

/-- What is promised of the reply to a name that is not known in a domain. -/
structure OffersSiblings (tables : Tables) (store : PluginStore) (domain : Domain)
    (name : String) (reply : Reply) : Prop where
  failed : reply.success = false
  few : reply.suggestions.length ≤ 3
  nearest : ∃ ordered, Text.NearestFirst name
      (fun known => (Namespaces.find? tables.handlers (.domain domain) known).isSome = true)
        ordered ∧
    reply.suggestions = (ordered.take 3).map fun known => "@" ++ domain.name ++ ":" ++ known
  invoked : ∀ known, "@" ++ domain.name ++ ":" ++ known ∈ reply.suggestions →
    ∃ handler read given,
      Namespaces.find? tables.handlers (.domain domain) known = some handler ∧
        ∀ (engine : Engine) (around : Surroundings), engine.registry.tables = tables →
          around.store = store →
            Invokes engine around ("@" ++ domain.name ++ ":" ++ known) handler read given

theorem siblings_eq (tables : Tables) (domain : Domain) (name : String) :
    Miss.siblings tables domain name =
      (((Text.nearest name (tables.names (.domain domain))).map Text.Ranked.name).take 3).map
        fun known => "@" ++ domain.name ++ ":" ++ known := by
  rw [Miss.siblings, Tables.mostSuggestions, ← List.map_take, List.map_map]
  rfl

theorem offersSiblings_ofFailure (admitted : Admitted store command) {domain : Domain}
    (domainIs : command.domain = some domain)
    (writable : ∀ name,
      (Namespaces.find? tables.handlers (.domain domain) name).isSome = true → IsWritable name) :
    OffersSiblings tables store domain command.name
      (Reply.ofFailure ((Miss.domain domain command.name).failure tables)) := by
  have nearestFirst := Registry.nearestFirst_names tables (.domain domain) command.name
  have offered : (Reply.ofFailure ((Miss.domain domain command.name).failure tables)).suggestions =
      Miss.siblings tables domain command.name := rfl
  rw [siblings_eq] at offered
  refine ⟨rfl, ?_, ⟨_, nearestFirst, offered⟩, ?_⟩
  · rw [offered, List.length_map]
    exact List.length_take_le _ _
  intro known member
  rw [offered] at member
  obtain ⟨same, isTaken, texts⟩ := List.mem_map.1 member
  obtain rfl : same = known := by simpa using texts
  have isStored := (nearestFirst.mem_iff _).1 (List.mem_of_mem_take isTaken)
  obtain ⟨handler, stored⟩ := Option.isSome_iff_exists.1 isStored
  obtain ⟨read, given, parsed, inDomain, found⟩ :=
    exists_parse_of_find? (writable _ isStored) stored
  refine ⟨handler, read, given, stored, ?_⟩
  rintro engine around rfl rfl
  -- The same plugin is consulted again, and it was ready.
  have alsoAdmitted : Admitted around.store read := by
    intro plugin consults
    rw [consulted?, inDomain] at consults
    apply admitted plugin
    rw [consulted?, domainIs]
    exact consults
  exact invokes_of_chosen parsed (ofCommand_of_match? alsoAdmitted found)

/-- If an execution of a domain command that was not cancelled ends because nobody knows the
command, the reply offers the nearest names of the domain, and each of them can be run. -/
theorem offersSiblings_of_proceeds {domain : Domain} (domainIs : command.domain = some domain)
    (writable : ∀ place name,
      (Namespaces.find? tables.handlers (.domain place) name).isSome = true → IsWritable name)
    {reply : Reply}
    (proceeds : Proceeds tables store command (.settled reply) false
      (.finished (.error (.miss unknown)))) :
    OffersSiblings tables store domain command.name reply := by
  obtain ⟨registry, ends⟩ := proceeds.continues
  obtain ⟨admitted, _, isMiss⟩ := unmatched_of_ends_miss ends
  obtain ⟨engine, _, _, rfl, settled⟩ := proceeds.isAt
  have ofDomain : miss command = .domain domain command.name := by rw [miss, domainIs]
  cases settled
  rw [isMiss, ofDomain]
  exact offersSiblings_ofFailure admitted domainIs (writable domain)

/-- A plugin for a domain that answers at last that it does not support what it is asked. -/
def hesitant : Plugin :=
  { Plugin.plain "hesitant"
      [⟨"stash", "", none, [], [], none⟩, ⟨"stash:pop", "", none, [], [], none⟩]
      fun given => .untilOpen "answer" (.done (.error (.unsupported "hesitant" given.command))) with
    domain := some .git }

def hesitants : PluginStore := .ofList [hesitant]

theorem ofCommand_hesitants :
    ofCommand (Tables.ofPlugins hesitants).1 hesitants (.forDomain .git "stsh") =
      .delegate hesitant (invocation (.forDomain .git "stsh")) (.domain .git "stsh") := rfl

theorem isWritable_hesitants {place : Domain} {name : String}
    (stored : (Namespaces.find? (Tables.ofPlugins hesitants).1.handlers (.domain place)
      name).isSome = true) : IsWritable name := by
  have places : ∀ entry ∈ Namespaces.places (Tables.ofPlugins hesitants).1.handlers,
      entry.1 = .core ∨ entry.2 = "stash" ∨ entry.2 = "stash:pop" := by
    decide +kernel
  rcases places _ (Namespaces.mem_places_iff.2 stored) with isCore | isStash | isPop
  · cases isCore
  · cases isStash
    exact ⟨.of_all (by decide) (by decide), by decide, by decide⟩
  · cases isPop
    exact ⟨.of_all (by decide) (by decide), by decide, by decide⟩

/-- The plugin is asked and waits before it answers. -/
theorem offersSiblings_of_proceeds_stsh :
    ∃ reply, Proceeds (Tables.ofPlugins hesitants).1 hesitants (.forDomain .git "stsh")
        (.settled reply) false (.finished (.error (.miss (.domain .git "stsh")))) ∧
      OffersSiblings (Tables.ofPlugins hesitants).1 hesitants .git "stsh" reply := by
  let engine : Engine := ⟨.ofPlugins hesitants ⟨[], none⟩, .empty 1⟩
  let begun := engine.executions.begin ⟨7⟩ (.forDomain .git "stsh")
  let answer : Routine Outcome :=
    .untilOpen "answer" (.done (.error (.miss (.domain .git "stsh"))))
  have asks : ofCommand engine.registry.tables hesitants (.forDomain .git "stsh") = _ :=
    ofCommand_hesitants
  have executed : engine.execute ⟨hesitants, [], ⟨0, 0⟩⟩ ⟨7⟩ (.forDomain .git "stsh") =
      (⟨engine.registry, begun.1⟩, .waiting 0 answer) := by
    rw [Engine.execute, asks]
    rfl
  have waits : Proceeds (Tables.ofPlugins hesitants).1 hesitants (.forDomain .git "stsh")
      (engine.execute ⟨hesitants, [], ⟨0, 0⟩⟩ ⟨7⟩ (.forDomain .git "stsh")).2 false
      (.waiting answer) := by
    refine .begun _ _ _ ?_ ?_ ?_
    · rfl
    · rfl
    · rw [ofCommand_hesitants]
      rfl
  rw [executed] at waits
  have underWay : begun.1.flight? 0 = some begun.2 := rfl
  have settles := Proceeds.resumed waits ⟨engine.registry, begun.1⟩
    ⟨hesitants, ["answer"], ⟨0, 0⟩⟩ rfl rfl underWay rfl
  exact ⟨_, settles, offersSiblings_of_proceeds rfl (fun _ _ => isWritable_hesitants) settles⟩

end Dispatch

end ChatOps
