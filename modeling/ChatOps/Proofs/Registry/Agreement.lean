import ChatOps.Proofs.Registry.Namespaces
import ChatOps.Registry

/-!
# Agreement of handlers and usage notes

Handlers and usage notes are kept in two tables that are edited together: by the
built-in commands, by every rebuild from the plugins, and by registrations.  One name of
the help has no usage note of its own; at every other place there are both or neither.
The place without a note is taken from the start, so a usage note can never get there.
-/

set_option autoImplicit false

namespace ChatOps

namespace Tables

/-- The place of the second name of the help, which no usage note tells of. -/
def unlisted : Address × String := (.core, "help")

/-- Whether something may be stored at a place with a usage note, or without one. -/
def Fits (address : Address) (name : String) : Option Usage → Prop
  | some note => note.address = address ∧ note.command = name ∧ (address, name) ≠ unlisted
  | none => (address, name) = unlisted

/-- Whether the usage notes are those of the handlers. -/
structure Agree (tables : Tables) : Prop where
  noted : ∀ address name, (Namespaces.find? tables.usages address name).isSome = true ↔
    (Namespaces.find? tables.handlers address name).isSome = true ∧ (address, name) ≠ unlisted
  truthful : ∀ address name note, Namespaces.find? tables.usages address name = some note →
    note.address = address ∧ note.command = name
  handlersInhabited : Namespaces.Inhabited tables.handlers
  usagesInhabited : Namespaces.Inhabited tables.usages

/-- The names that the built-in commands keep for themselves. -/
def builtinNames : List (String × Builtin) :=
  [("/help", .help), ("help", .help), ("/help:at", .addressedHelp), ("/model", .model),
    ("/debug", .debug), ("models", .models)]

theorem builtinNames_eq :
    builtinNames = builtins.map fun stored => (stored.1, stored.2.1) := rfl

/-- Whether, moreover, the built-in commands are where they belong. -/
structure Sound (tables : Tables) : Prop extends Agree tables where
  builtin : ∀ entry ∈ builtinNames,
    Namespaces.find? tables.handlers .core entry.1 = some (.builtin entry.2)

/-! ## Storing at one place -/

variable {tables after : Tables} {address : Address} {name : String} {handler : Handler}
  {usage : Option Usage}

theorem insert?_of_free (free : Namespaces.find? tables.handlers address name = none) :
    tables.insert? address name handler usage = some
      { handlers := Namespaces.put tables.handlers address name handler
        usages :=
          match usage with
          | some note => Namespaces.put tables.usages address name note
          | none => tables.usages } := by
  cases usage <;> simp only [insert?, free]

theorem free_of_insert? (stored : tables.insert? address name handler usage = some after) :
    Namespaces.find? tables.handlers address name = none := by
  unfold insert? at stored
  split at stored
  · cases stored
  · assumption

theorem find?_handlers_insert?
    (stored : tables.insert? address name handler usage = some after) (other : Address)
    (sought : String) :
    Namespaces.find? after.handlers other sought =
      if address = other ∧ name = sought then some handler
      else Namespaces.find? tables.handlers other sought := by
  rw [insert?_of_free (free_of_insert? stored)] at stored
  cases stored
  exact Namespaces.find?_put ..

/-- No handler is ever replaced. -/
theorem find?_insert?_of_some
    (stored : tables.insert? address name handler usage = some after) {other : Address}
    {sought : String} {older : Handler}
    (found : Namespaces.find? tables.handlers other sought = some older) :
    Namespaces.find? after.handlers other sought = some older := by
  rw [find?_handlers_insert? stored]
  split
  · next same =>
      have free := free_of_insert? stored
      rw [same.1, same.2, found] at free
      cases free
  · exact found

theorem Agree.insert? (agree : Agree tables) (fits : Fits address name usage)
    (stored : tables.insert? address name handler usage = some after) : Agree after := by
  have handlers := find?_handlers_insert? stored
  rw [insert?_of_free (free_of_insert? stored)] at stored
  cases stored
  cases usage with
  | none =>
      refine ⟨?_, agree.truthful, agree.handlersInhabited.put _ _ _, agree.usagesInhabited⟩
      intro other sought
      rw [handlers, agree.noted]
      split
      · next same =>
          obtain ⟨rfl, rfl⟩ := same
          have isUnlisted : (address, name) = unlisted := fits
          simp [isUnlisted]
      · rfl
  | some note =>
      obtain ⟨sameAddress, sameName, isListed⟩ := fits
      refine ⟨?_, ?_, agree.handlersInhabited.put _ _ _,
        agree.usagesInhabited.put _ _ _⟩
      · intro other sought
        rw [handlers, Namespaces.find?_put]
        split
        · next same =>
            obtain ⟨rfl, rfl⟩ := same
            simp [isListed]
        · exact agree.noted other sought
      · intro other sought found noteFound
        rw [Namespaces.find?_put] at noteFound
        split at noteFound
        · next same =>
            obtain ⟨rfl, rfl⟩ := same
            cases noteFound
            exact ⟨sameAddress, sameName⟩
        · exact agree.truthful other sought found noteFound

theorem Sound.unlisted_taken (sound : Sound tables) :
    Namespaces.find? tables.handlers .core "help" = some (.builtin .help) :=
  sound.builtin ("help", .help) (by simp [builtinNames])

/-- A handler with a usage note that tells its place is stored. -/
theorem Sound.insert? (sound : Sound tables) (note : Usage)
    (stored : tables.insert? note.address note.command handler (some note) = some after) :
    Sound after where
  toAgree := by
    have isListed : (note.address, note.command) ≠ unlisted := by
      intro isUnlisted
      obtain ⟨sameAddress, sameName⟩ := Prod.mk.inj isUnlisted
      have free := free_of_insert? stored
      rw [sameAddress, sameName, sound.unlisted_taken] at free
      cases free
    have fits : Fits note.address note.command (some note) := ⟨rfl, rfl, isListed⟩
    exact sound.toAgree.insert? fits stored
  builtin := fun entry member => find?_insert?_of_some stored (sound.builtin entry member)

/-! ## The built-in commands -/

theorem agree_empty : Agree empty where
  noted := by simp [empty, Namespaces.find?, Namespaces.space]
  truthful := by simp [empty, Namespaces.find?, Namespaces.space]
  handlersInhabited := by simp [empty, Namespaces.Inhabited]
  usagesInhabited := by simp [empty, Namespaces.Inhabited]

theorem Agree.insert (agree : Agree tables) (fits : Fits address name usage)
    (handler : Handler) : Agree (tables.insert address name handler usage) := by
  rw [Tables.insert]
  cases stored : tables.insert? address name handler usage with
  | none => exact agree
  | some after => exact agree.insert? fits stored

theorem find?_insert_of_some {other : Address} {sought : String} {older : Handler}
    (found : Namespaces.find? tables.handlers other sought = some older) :
    Namespaces.find? (tables.insert address name handler usage).handlers other sought =
      some older := by
  rw [Tables.insert]
  cases stored : tables.insert? address name handler usage with
  | none => exact found
  | some after => exact find?_insert?_of_some stored found

theorem find?_insert_of_free (free : Namespaces.find? tables.handlers address name = none)
    (handler : Handler) (usage : Option Usage) (other : Address) (sought : String) :
    Namespaces.find? (tables.insert address name handler usage).handlers other sought =
      if address = other ∧ name = sought then some handler
      else Namespaces.find? tables.handlers other sought := by
  rw [Tables.insert, insert?_of_free free, Option.getD_some]
  exact Namespaces.find?_put ..

def install (tables : Tables) (entries : List (String × Builtin × Option Usage)) : Tables :=
  entries.foldl (fun tables entry =>
    tables.insert .core entry.1 (.builtin entry.2.1) entry.2.2) tables

theorem install_cons (entry : String × Builtin × Option Usage)
    (rest : List (String × Builtin × Option Usage)) :
    tables.install (entry :: rest) =
      (tables.insert .core entry.1 (.builtin entry.2.1) entry.2.2).install rest := rfl

theorem agree_install {entries : List (String × Builtin × Option Usage)}
    (agree : Agree tables) (fits : ∀ entry ∈ entries, Fits .core entry.1 entry.2.2) :
    Agree (tables.install entries) := by
  induction entries generalizing tables with
  | nil => exact agree
  | cons entry rest inductionHypothesis =>
      exact inductionHypothesis (agree.insert (fits entry List.mem_cons_self) _)
        fun later member => fits later (List.mem_cons_of_mem _ member)

theorem find?_install_of_some {entries : List (String × Builtin × Option Usage)}
    {older : Handler} (found : Namespaces.find? tables.handlers address name = some older) :
    Namespaces.find? (tables.install entries).handlers address name = some older := by
  induction entries generalizing tables with
  | nil => exact found
  | cons entry rest inductionHypothesis => exact inductionHypothesis (find?_insert_of_some found)

theorem find?_install {entries : List (String × Builtin × Option Usage)}
    (distinct : (entries.map Prod.fst).Nodup)
    (free : ∀ entry ∈ entries, Namespaces.find? tables.handlers .core entry.1 = none) :
    ∀ entry ∈ entries, Namespaces.find? (tables.install entries).handlers .core entry.1 =
      some (.builtin entry.2.1) := by
  induction entries generalizing tables with
  | nil => simp
  | cons head rest inductionHypothesis =>
      obtain ⟨headApart, restDistinct⟩ := List.nodup_cons.1 distinct
      have stored := find?_insert_of_free (free head List.mem_cons_self) (.builtin head.2.1)
        head.2.2 .core
      intro entry member
      rw [install_cons]
      rcases List.mem_cons.1 member with rfl | inRest
      · apply find?_install_of_some
        rw [stored, if_pos ⟨rfl, rfl⟩]
      · refine inductionHypothesis restDistinct ?_ entry inRest
        intro later laterMember
        rw [stored, if_neg]
        · exact free later (List.mem_cons_of_mem _ laterMember)
        · rintro ⟨_, sameName⟩
          exact headApart (sameName ▸ List.mem_map_of_mem laterMember)

theorem sound_core : Sound core where
  toAgree := agree_install agree_empty
    (by simp [builtins, Fits, unlisted, coreUsage, Usage.describe])
  builtin := by
    rw [builtinNames_eq]
    intro entry member
    obtain ⟨stored, storedMember, rfl⟩ := List.mem_map.1 member
    exact find?_install (by decide)
      (by simp [empty, Namespaces.find?, Namespaces.space]) stored storedMember

/-! ## The commands of plugins -/

theorem Sound.declare {state : Tables × Nat} (sound : Sound state.1)
    (entry : Plugin × Declaration) : Sound (declare state entry).1 := by
  rw [Tables.declare]
  split
  · next after stored => exact sound.insert? (entry.2.usage (entry.1.addressOf entry.2)) stored
  · exact sound

theorem sound_ofPlugins (store : PluginStore) : Sound (ofPlugins store).1 := by
  rw [ofPlugins]
  generalize declarations store.enabled = entries
  suffices everyState : ∀ state : Tables × Nat, Sound state.1 →
      Sound (entries.foldl Tables.declare state).1 from everyState (core, 0) sound_core
  induction entries with
  | nil => exact fun _ sound => sound
  | cons entry rest inductionHypothesis =>
      exact fun state sound => inductionHypothesis _ (sound.declare entry)

/-! ## Counting -/

def notedPlace (note : Usage) : Address × String := (note.address, note.command)

theorem Agree.map_notedPlace (agree : Agree tables) :
    tables.allUsages.map notedPlace = Namespaces.places tables.usages := by
  apply Namespaces.map_all
  intro address name note found
  obtain ⟨sameAddress, sameName⟩ := agree.truthful address name note found
  rw [notedPlace, sameAddress, sameName]

theorem Sound.handlerCount_eq (sound : Sound tables) :
    tables.handlerCount = tables.allUsages.length + 1 := by
  have notNoted : unlisted ∉ Namespaces.places tables.usages := by
    intro member
    exact ((sound.noted _ _).1 (Namespaces.mem_places_iff.1 member)).2 rfl
  have permutation : (Namespaces.places tables.handlers).Perm
      (unlisted :: Namespaces.places tables.usages) := by
    refine (List.perm_ext_iff_of_nodup (Namespaces.nodup_places _)
      (List.nodup_cons.2 ⟨notNoted, Namespaces.nodup_places _⟩)).2 ?_
    rintro ⟨address, name⟩
    rw [List.mem_cons, Namespaces.mem_places_iff, Namespaces.mem_places_iff, sound.noted]
    by_cases isUnlisted : (address, name) = unlisted
    · obtain ⟨rfl, rfl⟩ := Prod.mk.inj isUnlisted
      simp [sound.unlisted_taken, isUnlisted]
    · simp [isUnlisted]
  have lengths := permutation.length_eq
  rw [List.length_cons, Namespaces.length_places, Namespaces.length_places] at lengths
  exact lengths

end Tables

end ChatOps
