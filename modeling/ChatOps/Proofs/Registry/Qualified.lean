import ChatOps.Proofs.Command.Addressed
import ChatOps.Proofs.Registry.Lookup
import ChatOps.Proofs.Registry.Reachable

/-!
# Qualified names

A registered command is shown to users under its qualified name, and this text can be run.
It leads back to where the command stands, with two exceptions: an agent may be called
like a domain, and then it is the domain that is heard, and a core command may be stored
without its slash while there is another one with it.  So the handler that is found is the
one that was stored just if neither of them hides it (`reaches_qualify_iff`).
-/

set_option autoImplicit false

namespace ChatOps.Registry

/-! ## Words -/

/-- A text that no blank and no colon takes apart. -/
structure IsWord (text : String) : Prop where
  solid : ∀ c ∈ text.toList, Text.isBlank c = false
  colon : ':' ∉ text.toList

theorem IsWord.of_all {text : String}
    (solid : text.toList.all (fun c => !Text.isBlank c && c != ':') = true) : IsWord text := by
  simp only [List.all_eq_true, Bool.and_eq_true, Bool.not_eq_true', bne_iff_ne] at solid
  exact ⟨fun c member => (solid c member).1, fun member => (solid ':' member).2 rfl⟩

theorem IsWord.last {text : String} (word : IsWord text) :
    ∀ c ∈ text.toList.getLast?, Text.isBlank c = false :=
  fun c last => word.solid c (List.mem_of_getLast? last)

theorem IsWord.asciiLower {text : String} (word : IsWord text) :
    IsWord (Text.asciiLower text) where
  solid := by
    intro c member
    rw [Text.asciiLower, String.toList_ofList] at member
    obtain ⟨original, among, rfl⟩ := List.mem_map.1 member
    rw [Text.isBlank_toLower]
    exact word.solid original among
  colon := by
    rw [Text.colon_mem_asciiLower_iff]
    exact word.colon

theorem IsWord.slashed {text : String} (word : IsWord text) :
    IsWord (Address.slashed text) := by
  unfold Address.slashed
  split
  · exact word
  · refine ⟨?_, ?_⟩
    · intro c member
      simp only [String.toList_append, List.mem_append] at member
      rcases member with slash | inside
      · rw [List.mem_singleton.1 slash]
        decide
      · exact word.solid c inside
    · simpa using word.colon

theorem isWord_name (domain : Domain) : IsWord domain.name := by
  cases domain <;> exact .of_all (by decide +kernel)

theorem isWord_coreAgent : IsWord coreAgent := .of_all (by decide +kernel)

/-! ## Places -/

/-- Where a registration for a domain, for an agent or for the core, or a rebuild, stores
a handler, if the agent and the name are words. -/
inductive Worded : Address → String → Prop where
  | domain (domain : Domain) (name : String) (word : IsWord name) :
      Worded (Registration.domain domain name).usage.address name
  | agent (id name : String) (idWord : IsWord id) (nameWord : IsWord name) :
      Worded (Registration.agent id name).usage.address name
  | system (name description : String) (word : IsWord name) :
      Worded (Registration.system name description).usage.address
        (Registration.system name description).usage.command
  | declared (plugin : Plugin) (declaration : Declaration) (idWord : IsWord plugin.id)
      (nameWord : IsWord declaration.name) :
      Worded (plugin.addressOf declaration) declaration.name
  | builtin (entry : String × Builtin × Option Usage) (member : entry ∈ Tables.builtins) :
      Worded .core entry.1

/-- What can be read back from a qualified name. -/
structure Legible (address : Address) (name : String) : Prop where
  display : IsWord address.display
  lower : Text.asciiLower address.display = address.display
  ends : ∀ c ∈ name.toList.getLast?, Text.isBlank c = false

variable {address : Address} {name : String}

theorem IsWord.legible (word : IsWord name) (display : IsWord address.display)
    (lower : Text.asciiLower address.display = address.display) : Legible address name where
  display := display
  lower := lower
  ends := word.last

theorem IsWord.legible_domain (word : IsWord name) (domain : Domain) :
    Legible (.domain domain) name :=
  word.legible (isWord_name domain) (Domain.asciiLower_name domain)

theorem IsWord.legible_agent (word : IsWord name) {id : String} (idWord : IsWord id) :
    Legible (.agent (Text.asciiLower id)) name :=
  word.legible idWord.asciiLower (Text.asciiLower_asciiLower id)

theorem legible_core (ends : ∀ c ∈ name.toList.getLast?, Text.isBlank c = false) :
    Legible .core name :=
  ⟨isWord_coreAgent, by decide, ends⟩

theorem Worded.legible (worded : Worded address name) : Legible address name := by
  cases worded with
  | domain domain _ word => exact word.legible_domain domain
  | agent id _ idWord nameWord =>
      have lowered : (Registration.agent id name).usage.address =
          .agent (Text.asciiLower id) := by
        rw [← Text.trimmed_of_solid idWord.solid]
        simp [Registration.usage, Usage.describe]
      rw [lowered]
      exact nameWord.legible_agent idWord
  | system bare description word => exact legible_core word.slashed.last
  | declared plugin declaration idWord nameWord =>
      unfold Plugin.addressOf
      split
      · next domain _ => exact nameWord.legible_domain domain
      · exact nameWord.legible_agent idWord
  | builtin entry member =>
      have solid : Tables.builtins.all (fun entry =>
          entry.1.toList.getLast?.all fun c => !Text.isBlank c) = true := by
        decide +kernel
      apply legible_core
      intro c last
      have check := List.all_eq_true.1 solid entry member
      rw [Option.mem_def.1 last] at check
      simpa using check

/-! ## Reading back -/

/-- How a name is heard at an address. -/
def spelled (address : Address) (name : String) : String :=
  if address.isCore then Address.slashed name else name

theorem last_append (front : List Char) {text : List Char} {mark : Char}
    (solid : Text.isBlank mark = false)
    (ends : ∀ c ∈ text.getLast?, Text.isBlank c = false) :
    ∀ c ∈ (front ++ mark :: text).getLast?, Text.isBlank c = false := by
  intro c last
  rw [List.getLast?_append_of_ne_nil _ (List.cons_ne_nil mark text), List.getLast?_cons,
    Option.mem_some_iff] at last
  cases inner : text.getLast? with
  | none =>
      rw [inner, Option.getD_none] at last
      rw [← last]
      exact solid
  | some final =>
      rw [inner, Option.getD_some] at last
      rw [← last]
      exact ends final inner

theorem resolve_slashed (ends : ∀ c ∈ name.toList.getLast?, Text.isBlank c = false) :
    resolve (Address.slashed name) = (.core, Address.slashed name) := by
  obtain ⟨bare, shape⟩ := Command.slash_slashed name
  have last : ∀ c ∈ (Address.slashed name).toList.getLast?, Text.isBlank c = false := by
    unfold Address.slashed
    split
    · exact ends
    · rw [String.toList_append]
      exact last_append [] (by decide) ends
  have kept : Text.trim (Address.slashed name).toList = '/' :: bare := by
    rw [Text.trim_of_ends ?_ last, shape]
    rw [shape]
    intro c first
    cases first
    decide
  simp only [resolve, kept]
  rw [← shape, String.ofList_toList]

theorem resolve_addressed {display : String} (colon : ':' ∉ display.toList)
    (ends : ∀ c ∈ name.toList.getLast?, Text.isBlank c = false) :
    resolve ("@" ++ display ++ ":" ++ name) = (Address.resolve display, name) := by
  have shape : ("@" ++ display ++ ":" ++ name).toList =
      '@' :: (display.toList ++ ':' :: name.toList) := by
    simp
  have kept : Text.trim ("@" ++ display ++ ":" ++ name).toList =
      '@' :: (display.toList ++ ':' :: name.toList) := by
    rw [shape]
    apply Text.trim_of_ends
    · intro c first
      cases first
      decide
    · rw [← List.cons_append]
      exact last_append _ (by decide) ends
  have bare : Text.afterStart? ['@'] ('@' :: (display.toList ++ ':' :: name.toList)) =
      some (display.toList ++ ':' :: name.toList) :=
    Text.afterStart?_eq_some_iff.2 rfl
  simp only [resolve, kept, bare, Option.getD_some, Text.cut?_append colon,
    String.ofList_toList]
  rfl

/-- The qualified name leads to the address that its segment is heard as. -/
theorem resolve_qualify (colon : ':' ∉ address.display.toList)
    (ends : ∀ c ∈ name.toList.getLast?, Text.isBlank c = false) :
    resolve (address.qualify name) =
      (Address.resolve address.display, spelled address name) := by
  by_cases core : address.isCore = true
  · rw [Address.eq_core_of_isCore core]
    exact resolve_slashed ends
  · rw [Address.qualify, spelled, if_neg core, if_neg core]
    exact resolve_addressed colon ends

theorem resolve_name (domain : Domain) : Address.resolve domain.name = .domain domain := by
  rw [Address.resolve, Domain.named?_eq_some_iff.2]
  rw [Domain.trimmed_name, Domain.asciiLower_name]

theorem resolve_agent {id : String} (word : IsWord id) (lower : Text.asciiLower id = id)
    (unnamed : ∀ domain : Domain, id ≠ domain.name) : Address.resolve id = .agent id := by
  have plain : Text.asciiLower (Text.trimmed id) = id := by
    rw [Text.trimmed_of_solid word.solid, lower]
  rw [Address.resolve, Domain.named?_eq_none_iff.2, plain]
  rw [plain]
  exact unnamed

/-! ## Running -/

/-- The handler that is found for a full command text. -/
def found? (registry : Registry) (full : String) : Option Handler :=
  registry.tables.handler? (resolve full).1 (resolve full).2

/-- Whether running a full command text finds this handler and calls it. -/
structure Reaches (registry : Registry) (full : String) (handler : Handler) : Prop where
  found : registry.found? full = some handler
  called : ∀ args flags, registry.execute full args flags =
    ((registry.call handler ⟨(resolve full).2, args, flags, .empty⟩).1,
      (registry.call handler ⟨(resolve full).2, args, flags, .empty⟩).2.map replyOf)

/-- Whether no other handler hides one from its qualified name. -/
structure Unshadowed (tables : Tables) (address : Address) (name : String)
    (handler : Handler) : Prop where
  domain : ∀ domain : Domain, address = .agent domain.name →
    Namespaces.find? tables.handlers (.domain domain) name = some handler
  core : address = .core → Address.isSlashed name = false → ∀ other,
    Namespaces.find? tables.handlers .core ("/" ++ name) = some other → other = handler

variable {registry : Registry} {handler : Handler}

theorem reaches_iff {full : String} :
    Reaches registry full handler ↔ registry.found? full = some handler := by
  constructor
  · exact Reaches.found
  · intro found
    refine ⟨found, ?_⟩
    intro args flags
    rw [found?] at found
    simp only [execute, found]

theorem respelled_slash (name : String) : Tables.respelled ("/" ++ name) = name := by
  simp [Tables.respelled]

theorem handler?_slashed_iff {tables : Tables}
    (stored : Namespaces.find? tables.handlers .core name = some handler) :
    tables.handler? .core (Address.slashed name) = some handler ↔
      (Address.isSlashed name = false → ∀ other,
        Namespaces.find? tables.handlers .core ("/" ++ name) = some other →
          other = handler) := by
  unfold Address.slashed
  cases slashed : Address.isSlashed name with
  | true =>
      rw [if_pos rfl, Tables.handler?_of_find? stored]
      exact iff_of_true rfl fun bare => by cases bare
  | false =>
      rw [if_neg Bool.false_ne_true]
      cases beside : Namespaces.find? tables.handlers .core ("/" ++ name) with
      | none =>
          rw [Tables.handler?_core_of_free beside, respelled_slash, stored]
          exact iff_of_true rfl fun _ other hides => by cases hides
      | some other =>
          rw [Tables.handler?_of_find? beside, Option.some.injEq]
          constructor
          · rintro rfl _ another hides
            exact (Option.some.inj hides).symm
          · intro same
            exact same rfl other rfl

theorem found?_qualify (legible : Legible address name) :
    registry.found? (address.qualify name) =
      registry.tables.handler? (Address.resolve address.display) (spelled address name) := by
  rw [found?, resolve_qualify legible.display.colon legible.ends]

theorem name_ne_coreAgent (domain : Domain) : domain.name ≠ coreAgent := by
  cases domain <;> decide

/-! ## Registrations -/

theorem find?_register_of_find? {note : Usage} {other : Handler}
    (stored : Namespaces.find? registry.tables.handlers address name = some handler) :
    Namespaces.find? ((registry.register? note other).getD registry).tables.handlers address
      name = some handler := by
  rw [register?]
  cases taken : registry.tables.insert? note.address note.command other (some note) with
  | none => exact stored
  | some after => exact Tables.find?_insert?_of_some taken stored

theorem find?_register_of_free {note : Usage}
    (free : Namespaces.find? registry.tables.handlers note.address note.command = none) :
    Namespaces.find? ((registry.register? note handler).getD registry).tables.handlers
      note.address note.command = some handler := by
  have taken : registry.tables.insert? note.address note.command handler (some note) = some _ :=
    Tables.insert?_of_free free
  rw [register?, taken]
  exact (Tables.find?_handlers_insert? taken _ _).trans (if_pos ⟨rfl, rfl⟩)

/-! ## Agents -/

theorem reaches_core_iff (legible : Legible .core name)
    (stored : Namespaces.find? registry.tables.handlers .core name = some handler) :
    Reaches registry (Address.core.qualify name) handler ↔
      Unshadowed registry.tables .core name handler := by
  have here : Address.resolve Address.core.display = .core := by decide
  rw [reaches_iff, found?_qualify legible, here]
  refine (handler?_slashed_iff stored).trans ⟨?_, fun unshadowed => unshadowed.core rfl⟩
  intro free
  refine ⟨?_, fun _ => free⟩
  intro domain same
  exact absurd (Address.agent.inj same).symm (name_ne_coreAgent domain)

/-- An agent that is called like a domain is not heard. -/
theorem reaches_name_iff (domain : Domain) (legible : Legible (.agent domain.name) name) :
    Reaches registry ((Address.agent domain.name).qualify name) handler ↔
      Unshadowed registry.tables (.agent domain.name) name handler := by
  have noCore : (Address.agent domain.name).isCore = false :=
    beq_eq_false_iff_ne.2 (name_ne_coreAgent domain)
  rw [reaches_iff, found?_qualify legible, Address.display, resolve_name, spelled, noCore,
    if_neg Bool.false_ne_true, Tables.handler?_of_ordinary rfl]
  constructor
  · intro found
    refine ⟨?_, ?_⟩
    · intro other same
      rw [← Domain.name_inj (Address.agent.inj same)]
      exact found
    · intro isCore
      exact absurd (Address.agent.inj isCore) (name_ne_coreAgent domain)
  · intro unshadowed
    exact unshadowed.domain domain rfl

theorem reaches_agent {id : String} (noCore : id ≠ coreAgent)
    (unnamed : ∀ domain : Domain, id ≠ domain.name) (legible : Legible (.agent id) name)
    (stored : Namespaces.find? registry.tables.handlers (.agent id) name = some handler) :
    Reaches registry ((Address.agent id).qualify name) handler := by
  have ordinary : (Address.agent id).isCore = false := beq_eq_false_iff_ne.2 noCore
  have heard : Address.resolve id = .agent id :=
    resolve_agent legible.display legible.lower unnamed
  rw [reaches_iff, found?_qualify legible, Address.display, heard, spelled, ordinary,
    if_neg Bool.false_ne_true, Tables.handler?_of_find? stored]

theorem reaches_domain {domain : Domain} (legible : Legible (.domain domain) name)
    (stored : Namespaces.find? registry.tables.handlers (.domain domain) name =
      some handler) :
    Reaches registry ((Address.domain domain).qualify name) handler := by
  rw [reaches_iff, found?_qualify legible, Address.display, resolve_name, spelled]
  exact Tables.handler?_of_find? stored

/-- The qualified name of a registered command finds its handler and calls it, just if no
other one hides it. -/
theorem reaches_qualify_iff (worded : Worded address name)
    (stored : Namespaces.find? registry.tables.handlers address name = some handler) :
    Reaches registry (address.qualify name) handler ↔
      Unshadowed registry.tables address name handler := by
  have legible := worded.legible
  cases address with
  | domain domain =>
      refine iff_of_true (reaches_domain legible stored) ⟨?_, ?_⟩
      · intro other same
        cases same
      · intro isCore
        cases isCore
  | agent id =>
      by_cases core : id = coreAgent
      · subst core
        exact reaches_core_iff legible stored
      · by_cases named : ∃ domain : Domain, id = domain.name
        · obtain ⟨domain, rfl⟩ := named
          exact reaches_name_iff domain legible
        · have unnamed : ∀ domain : Domain, id ≠ domain.name := not_exists.1 named
          refine iff_of_true (reaches_agent core unnamed legible stored) ⟨?_, ?_⟩
          · intro domain same
            exact absurd (Address.agent.inj same) (unnamed domain)
          · intro isCore
            exact absurd (Address.agent.inj isCore) core

def quiet : Handler := .custom fun _ => .done (.ok .empty)

/-- A registry where one of two agents is called like a domain. -/
def agents : Registry :=
  let fresh := ofPlugins .empty ⟨[], none⟩
  let first := (fresh.register? (Registration.agent "Robot" "greet").usage quiet).getD fresh
  (first.register? (Registration.agent "Git" "sync").usage quiet).getD first

/-- The registry with a core command beside a built-in one. -/
def crowded : Registry :=
  (agents.register? (Registration.system "models" "").usage quiet).getD agents

theorem reachable_crowded : crowded.Reachable :=
  .registered (.registered (.registered (.built .empty ⟨[], none⟩) (.agent "Robot" "greet")
    quiet) (.agent "Git" "sync") quiet) (.system "models" "") quiet

theorem find?_greet :
    Namespaces.find? crowded.tables.handlers (.agent "robot") "greet" = some quiet := by
  apply find?_register_of_find?
  apply find?_register_of_find?
  apply find?_register_of_free
  decide +kernel

theorem find?_sync :
    Namespaces.find? crowded.tables.handlers (.agent "git") "sync" = some quiet := by
  apply find?_register_of_find?
  apply find?_register_of_free
  decide +kernel

theorem find?_slash_models :
    Namespaces.find? crowded.tables.handlers .core "/models" = some quiet := by
  apply find?_register_of_free
  decide +kernel

theorem find?_models :
    Namespaces.find? crowded.tables.handlers .core "models" = some (.builtin .models) :=
  reachable_crowded.sound.builtin ("models", .models) (by decide)

theorem reaches_qualify_iff_greet :
    IsWord "Robot" ∧ IsWord "greet" ∧ Reaches crowded "@robot:greet" quiet := by
  have idWord : IsWord "Robot" := .of_all (by decide +kernel)
  have nameWord : IsWord "greet" := .of_all (by decide +kernel)
  refine ⟨idWord, nameWord, ?_⟩
  refine (reaches_qualify_iff (.agent "Robot" "greet" idWord nameWord) find?_greet).2 ⟨?_, ?_⟩
  · intro domain same
    cases domain <;> exact absurd same (by decide)
  · intro same
    exact absurd same (by decide)

/-- The command of the other agent is sought in the domain, and the built-in command is
not found where another one has its name with a slash. -/
theorem not_reaches_crowded :
    crowded.Reachable ∧
      (Namespaces.find? crowded.tables.handlers (.agent "git") "sync" = some quiet ∧
        ¬ Reaches crowded ((Address.agent "git").qualify "sync") quiet) ∧
      Namespaces.find? crowded.tables.handlers .core "models" = some (.builtin .models) ∧
        ¬ Reaches crowded (Address.core.qualify "models") (.builtin .models) := by
  refine ⟨reachable_crowded, ⟨find?_sync, ?_⟩, find?_models, ?_⟩
  · intro reaches
    have word : IsWord "sync" := .of_all (by decide +kernel)
    have legible : Legible (.agent Domain.git.name) "sync" :=
      word.legible_agent (isWord_name .git)
    have inDomain := ((reaches_name_iff .git legible).1 reaches).domain .git rfl
    have free : Namespaces.find? crowded.tables.handlers (.domain .git) "sync" = none := by
      decide +kernel
    rw [free] at inDomain
    cases inDomain
  · intro reaches
    have word : IsWord "models" := .of_all (by decide +kernel)
    have unshadowed := (reaches_core_iff (legible_core word.last) find?_models).1 reaches
    have same := unshadowed.core rfl (by decide) quiet find?_slash_models
    cases same

end ChatOps.Registry
