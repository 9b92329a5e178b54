import ChatOps.Engine
import ChatOps.Proofs.Command.RoundTrip
import ChatOps.Proofs.Dispatch.Availability
import ChatOps.Proofs.Registry.Qualified

/-!
# Two ways to run a command text

A text can be given to the registry, which cuts it at its first colon and looks the rest
up, or it can be parsed and dispatched.  For a text of one plain word the two ways meet:
the handler that the registry finds is the one that is invoked for the parsed command, as
long as every plugin is ready (`invokes_of_reaches`).
-/

set_option autoImplicit false

namespace ChatOps

/-! ## Words as commands -/

namespace Command

/-- A first token that can be read makes a text look like a command. -/
theorem isCommand_of_ofHead {head : String} {read : Command}
    (reading : ofHead head = .ok read) : isCommand head = true := by
  rw [ofHead] at reading
  rw [isCommand]
  split at reading
  · next name shape =>
      have first : ∀ c ∈ head.toList.head?, Text.isBlank c = false := by
        rw [shape]
        rintro c ⟨⟩
        decide
      rw [Text.trimStart_of_head first, shape]
      rfl
  · next address shape =>
      have first : ∀ c ∈ head.toList.head?, Text.isBlank c = false := by
        rw [shape]
        rintro c ⟨⟩
        decide
      rw [Text.trimStart_of_head first, shape]
      rw [ofAddressed] at reading
      cases cut : Text.cut? ':' address with
      | none =>
          rw [cut] at reading
          cases reading
      | some halves =>
          obtain ⟨target, rest⟩ := halves
          simp [(Text.cut?_eq_some cut).1]
  · cases reading

theorem IsPlain.append {left right : String} (leftPlain : IsPlain left)
    (rightPlain : IsPlain right) : IsPlain (left ++ right) where
  nonempty := fun empty => leftPlain.nonempty (String.append_eq_empty_iff.1 empty).1
  bare := by
    intro c member
    rw [String.toList_append] at member
    rcases List.mem_append.1 member with first | second
    · exact leftPlain.bare c first
    · exact rightPlain.bare c second

theorem split_of_plain {text : String} (plain : IsPlain text) : Token.split text = [text] := by
  have some : text.toList ≠ [] := fun noChars =>
    plain.nonempty (String.toList_eq_nil_iff.1 noChars)
  have scanned := Token.scan_rendering (Token.rendering_of_bare some plain.bare) []
  rw [List.append_nil] at scanned
  rw [Token.split, scanned]
  change (Token.Scan.finished.prepend text.toList).tokens.map String.ofList = [text]
  rw [Token.Scan.tokens_finished_prepend, List.map_singleton, String.ofList_toList]

/-- A plain text is read as a head without arguments. -/
theorem parse_of_plain {text : String} (plain : IsPlain text) {read : Command}
    (reading : ofHead text = .ok read) :
    parse text = .ok (read.withArguments .none text) := by
  have solid : Text.trimmed text = text := plain.trimmed_eq
  refine parse_eq_ok_iff.2 ⟨isCommand_of_ofHead reading, text, [], read, ?_, reading, ?_⟩
  · rw [solid, split_of_plain plain]
  · rw [solid]
    rfl

end Command

namespace Dispatch

open ChatOps.Command

/-- A command text of one plain word: a name behind a slash, a target with a name, or a
domain with a name and the part behind it. -/
inductive OneWord : String → Prop where
  | slash (name : String) (namePlain : IsPlain name) : OneWord ("/" ++ name)
  | addressed (target name : String) (targetPlain : IsPlain target)
      (targetColon : ':' ∉ target.toList) (namePlain : IsPlain name)
      (nameColon : ':' ∉ name.toList) : OneWord ("@" ++ target ++ ":" ++ name)
  | part (target name sub : String) (targetPlain : IsPlain target)
      (isDomain : (Domain.named? target).isSome = true) (namePlain : IsPlain name)
      (nameColon : ':' ∉ name.toList) (subPlain : IsPlain sub) :
      OneWord ("@" ++ target ++ ":" ++ (name ++ ":" ++ sub))

/-- Whether a text begins an execution that calls this handler. -/
structure Invokes (engine : Engine) (around : Surroundings) (text : String)
    (handler : Handler) (command : Command) (given : Invocation) : Prop where
  parsed : Command.parse text = .ok command
  chosen : ofCommand engine.registry.tables around.store command = .invoke handler given
  called : ∀ id, engine.execute around id command =
    (⟨(engine.registry.call handler given).1, (engine.executions.begin id command).1⟩ :
        Engine).advance around (engine.executions.begin id command).2
      ((engine.registry.call handler given).2.map ofHandler)

variable {tables : Tables} {store : PluginStore} {command : Command} {handler : Handler}
  {given : Invocation} {engine : Engine} {around : Surroundings}

theorem invokes_of_chosen {text : String} (parsed : Command.parse text = .ok command)
    (chosen : ofCommand engine.registry.tables around.store command =
      .invoke handler given) : Invokes engine around text handler command given where
  parsed := parsed
  chosen := chosen
  called := by
    intro id
    simp only [Engine.execute, chosen]
    rfl

/-! ## Handlers that are found -/

theorem admitted_of_ready (ready : ∀ plugin ∈ store.all, plugin.availability = .ready) :
    Admitted store command :=
  fun plugin consults => ready plugin (mem_all_of_consulted? consults)

theorem ofCommand_of_match? (admitted : Admitted store command)
    (found : match? tables command = some ⟨handler, given⟩) :
    ofCommand tables store command = .invoke handler given := by
  rw [ofCommand_of_admitted admitted, found]
  rfl

/-- For the core, a name is sought with a slash in front first. -/
theorem match?_of_slashed (noDomain : command.domain = none)
    (sigil : command.sigil = .slash)
    (found : tables.handler? .core ("/" ++ command.name) = some handler) :
    match? tables command = some ⟨handler, invocation command⟩ := by
  have sought : coreHandler? tables command.name = some handler := by
    rw [coreHandler?, found]
  rw [match?, noDomain, sigil]
  simp only [reduceCtorEq, ↓reduceIte, sought]
  rfl

/-- In a domain, a name is sought together with the part behind it first. -/
theorem match?_of_qualified {domain : Domain} {name : String}
    (domainIs : command.domain = some domain) (qualified : qualifiedName command = some name)
    (found : tables.handler? (.domain domain) name = some handler) :
    match? tables command =
      some ⟨handler, { invocation command with command := name }⟩ := by
  rw [match?, domainIs]
  simp only [domainMatch?, qualified, Option.bind_some, found, Option.map_some]

/-- The place of a command is the address that its target is resolved to. -/
theorem place?_ofTarget (target name raw : String) (sub : Option String) :
    place? ({ ofTarget target name with sub := sub }.withArguments .none raw) =
      some (Address.resolve target) := by
  rw [Address.resolve, ofTarget]
  cases Domain.named? target <;> rfl

theorem domain_ofTarget {target : String} {place : Domain}
    (named : Domain.named? target = some place) (name raw : String) (sub : Option String) :
    ({ ofTarget target name with sub := sub }.withArguments .none raw).domain =
      some place := by
  rw [ofTarget, named]
  rfl

theorem name_withArguments_ofTarget (target name raw : String) (sub : Option String) :
    ({ ofTarget target name with sub := sub }.withArguments .none raw).name = name := by
  simp only [withArguments, name_ofTarget]

/-! ## Both ways -/

theorem isPlain_slash : IsPlain "/" := .of_all (by decide) (by decide)

theorem isPlain_at : IsPlain "@" := .of_all (by decide) (by decide)

theorem isPlain_colon : IsPlain ":" := .of_all (by decide) (by decide)

theorem OneWord.plain {text : String} (word : OneWord text) : IsPlain text := by
  cases word with
  | slash name namePlain => exact isPlain_slash.append namePlain
  | addressed target name targetPlain _ namePlain _ =>
      exact ((isPlain_at.append targetPlain).append isPlain_colon).append namePlain
  | part target name sub targetPlain _ namePlain _ subPlain =>
      exact ((isPlain_at.append targetPlain).append isPlain_colon).append
        ((namePlain.append isPlain_colon).append subPlain)

theorem colon_notMem_of_named? {target : String} (plain : IsPlain target) {place : Domain}
    (named : Domain.named? target = some place) : ':' ∉ target.toList := by
  have lower := Domain.named?_eq_some_iff.1 named
  rw [plain.trimmed_eq] at lower
  rw [← Text.colon_mem_asciiLower_iff, lower]
  exact Domain.colon_notMem_name place

theorem trim_ne_nil_of_plain {target : String} (plain : IsPlain target) :
    Text.trim target.toList ≠ [] := by
  intro empty
  apply plain.nonempty
  rw [← plain.trimmed_eq, Text.trimmed, empty]

theorem last_of_plain {text : String} (plain : IsPlain text) :
    ∀ c ∈ text.toList.getLast?, Text.isBlank c = false :=
  fun c last => (Token.isBare_iff.1 (plain.bare c (List.mem_of_getLast? last))).1

/-- An addressed text is parsed to its target and what stands behind it. -/
theorem parse_addressed {target name rest : String} {sub : Option String}
    (plain : IsPlain ("@" ++ target ++ ":" ++ rest)) (targetPlain : IsPlain target)
    (colon : ':' ∉ target.toList) (segment : IsSegment name) (subNonempty : sub ≠ some "")
    (behind : rest.toList = segmentChars name sub) :
    Command.parse ("@" ++ target ++ ":" ++ rest) =
      .ok ({ ofTarget target name with sub := sub }.withArguments .none
        ("@" ++ target ++ ":" ++ rest)) := by
  have reading := ofHead_addressed colon (trim_ne_nil_of_plain targetPlain) segment subNonempty
  have shape : String.ofList ('@' :: (target.toList ++ ':' :: segmentChars name sub)) =
      "@" ++ target ++ ":" ++ rest := by
    rw [← String.toList_inj, ← behind]
    simp
  rw [shape] at reading
  exact parse_of_plain plain reading

theorem handler?_of_reaches {text name : String} {address : Address}
    (reaches : Registry.Reaches engine.registry text handler)
    (resolved : Registry.resolve text = (address, name)) :
    engine.registry.tables.handler? address name = some handler := by
  have found := reaches.found
  rw [Registry.found?, resolved] at found
  exact found

/-- The handler that the registry finds for a text of one plain word is invoked when the
text is parsed and dispatched, if every plugin is ready. -/
theorem invokes_of_reaches {text : String}
    (ready : ∀ plugin ∈ around.store.all, plugin.availability = .ready)
    (word : OneWord text) (reaches : Registry.Reaches engine.registry text handler) :
    ∃ command given, Invokes engine around text handler command given := by
  suffices parsed : ∃ command given, Command.parse text = .ok command ∧
      match? engine.registry.tables command = some ⟨handler, given⟩ by
    obtain ⟨command, given, parsed, hit⟩ := parsed
    have chosen := ofCommand_of_match? (admitted_of_ready ready) hit
    exact ⟨command, given, invokes_of_chosen parsed chosen⟩
  have plain := word.plain
  cases word with
  | slash name namePlain =>
      have slashed : Address.slashed ("/" ++ name) = "/" ++ name := by
        simp [Address.slashed, Address.isSlashed]
      have resolved := Registry.resolve_slashed (last_of_plain plain)
      rw [slashed] at resolved
      have found := handler?_of_reaches reaches resolved
      have reading := ofHead_slash name namePlain.nonempty
      exact ⟨_, _, parse_of_plain plain reading, match?_of_slashed rfl rfl found⟩
  | addressed target name targetPlain targetColon namePlain nameColon =>
      have resolved := Registry.resolve_addressed targetColon (last_of_plain namePlain)
      have found := handler?_of_reaches reaches resolved
      have segment : IsSegment name := ⟨namePlain.nonempty, nameColon⟩
      have noSub : (none : Option String) ≠ some "" := by decide
      have parsed := parse_addressed plain targetPlain targetColon segment noSub rfl
      have placed := place?_ofTarget target name ("@" ++ target ++ ":" ++ name) none
      rw [← name_withArguments_ofTarget target name ("@" ++ target ++ ":" ++ name) none]
        at found
      exact ⟨_, _, parsed, match?_of_handler? rfl placed found⟩
  | part target name sub targetPlain isDomain namePlain nameColon subPlain =>
      obtain ⟨place, named⟩ := Option.isSome_iff_exists.1 isDomain
      have targetColon := colon_notMem_of_named? targetPlain named
      have restPlain := (namePlain.append isPlain_colon).append subPlain
      have resolved := Registry.resolve_addressed targetColon (last_of_plain restPlain)
      have found := handler?_of_reaches reaches resolved
      rw [Address.resolve, named] at found
      have segment : IsSegment name := ⟨namePlain.nonempty, nameColon⟩
      have someSub : some sub ≠ some "" := fun same =>
        subPlain.nonempty (Option.some.inj same)
      have behind : (name ++ ":" ++ sub).toList = segmentChars name (some sub) := by
        simp [segmentChars]
      have parsed := parse_addressed plain targetPlain targetColon segment someSub behind
      have inDomain := domain_ofTarget named name
        ("@" ++ target ++ ":" ++ (name ++ ":" ++ sub)) (some sub)
      have qualified : qualifiedName ({ ofTarget target name with sub := some sub
          }.withArguments .none ("@" ++ target ++ ":" ++ (name ++ ":" ++ sub))) =
          some (name ++ ":" ++ sub) := by
        simp only [qualifiedName, Command.withArguments, name_ofTarget, Option.map_some]
      exact ⟨_, _, parsed, match?_of_qualified inDomain qualified found⟩

/-- A plugin for a domain with a command and another one whose name goes on from it. -/
def stasher : Plugin :=
  { Plugin.plain "stasher"
      [⟨"stash", "", none, [], [], none⟩, ⟨"stash:pop", "", none, [], [], none⟩]
      fun _ => .done (.ok .empty) with
    domain := some .git }

/-- The longer name is found and invoked, not the shorter one with an argument. -/
theorem invokes_of_reaches_stash :
    let store := PluginStore.ofList [stasher]
    let engine : Engine := ⟨.ofPlugins store ⟨[], none⟩, .empty 1⟩
    let around : Surroundings := ⟨store, [], ⟨0, 0⟩⟩
    (∀ plugin ∈ around.store.all, plugin.availability = .ready) ∧
      OneWord "@GIT:stash:pop" ∧
      Registry.Reaches engine.registry "@GIT:stash:pop" (.plugin stasher) ∧
      ∃ command given,
        Invokes engine around "@GIT:stash:pop" (.plugin stasher) command given := by
  intro store engine around
  have ready : ∀ plugin ∈ around.store.all, plugin.availability = .ready := by
    intro plugin member
    cases List.mem_singleton.1 (show plugin ∈ [stasher] from member)
    rfl
  have word : OneWord "@GIT:stash:pop" :=
    .part "GIT" "stash" "pop" (.of_all (by decide) (by decide)) (by decide)
      (.of_all (by decide) (by decide)) (by decide) (.of_all (by decide) (by decide))
  have resolved : Registry.resolve "@GIT:stash:pop" = (.domain .git, "stash:pop") := by
    decide +kernel
  have stored : Namespaces.find? engine.registry.tables.handlers (.domain .git) "stash:pop" =
      some (.plugin stasher) := rfl
  have reaches : Registry.Reaches engine.registry "@GIT:stash:pop" (.plugin stasher) := by
    rw [Registry.reaches_iff, Registry.found?, resolved]
    exact Tables.handler?_of_find? stored
  exact ⟨ready, word, reaches, invokes_of_reaches ready word reaches⟩

end Dispatch

end ChatOps
