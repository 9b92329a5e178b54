import ChatOps.Proofs.Registry.Namespaces
import ChatOps.Proofs.Registry.Qualified
import ChatOps.Proofs.Repetitions
import ChatOps.Proofs.Text.Ranking

/-!
# Suggestions of the registry

A text that no handler is found for is answered with the names nearest to the one it asks
for, as users write them, and each of these texts finds a handler (`execute_of_missing`).
For this an address that was read from a text must be read back from what is displayed, and
a core name must be found under its slash.  Only a name that ends in a blank would be lost,
because texts are trimmed.
-/

set_option autoImplicit false

namespace ChatOps.Registry

/-! ## Reading addresses back -/

/-- Whether an address is displayed in a way that leads back to it. -/
structure ReadsBack (address : Address) : Prop where
  colon : ':' ∉ address.display.toList
  same : Address.resolve address.display = address

theorem readsBack_core : ReadsBack .core := ⟨by decide +kernel, by decide +kernel⟩

theorem readsBack_resolve {segment : String} (absent : ':' ∉ segment.toList) :
    ReadsBack (Address.resolve segment) := by
  rw [Address.resolve]
  cases named : Domain.named? segment with
  | some place => exact ⟨Domain.colon_notMem_name place, resolve_name place⟩
  | none =>
      -- Lowering and trimming change nothing more the second time.
      have again : Text.asciiLower (Text.trimmed (Text.asciiLower (Text.trimmed segment))) =
          Text.asciiLower (Text.trimmed segment) := by
        rw [Text.trimmed_asciiLower, Text.trimmed_trimmed, Text.asciiLower_asciiLower]
      refine ⟨?_, ?_⟩
      · rw [Address.display, Text.colon_mem_asciiLower_iff, Text.trimmed,
          String.toList_ofList]
        exact mt Text.mem_of_mem_trim absent
      · rw [Address.display, Address.resolve, Domain.named?_eq_none_iff.2, again]
        rw [again]
        exact Domain.named?_eq_none_iff.1 named

/-- Every address that a command text leads to is read back. -/
theorem readsBack_of_text (full : String) : ReadsBack (resolve full).1 := by
  rw [resolve]
  split
  · exact readsBack_core
  · dsimp only
    split
    · next segment name cut =>
        have absent : ':' ∉ (String.ofList segment).toList := by
          rw [String.toList_ofList]
          exact (Text.cut?_eq_some cut).2
        dsimp only
        exact readsBack_resolve absent
    · exact readsBack_core

/-! ## Suggested names -/

/-- Whether a name is registered at an address, and near enough to another one. -/
def IsNear (tables : Tables) (address : Address) (name known : String) : Prop :=
  (Namespaces.find? tables.handlers address known).isSome = true ∧
    Text.editDistance name known ≤ 3

/-- Whether no registered name ends in a blank. -/
def Unpadded (tables : Tables) : Prop :=
  ∀ place ∈ Namespaces.places tables.handlers,
    ∀ c ∈ place.2.toList.getLast?, Text.isBlank c = false

/-- What is promised of suggestions for a name at an address.  They are few and all
different, the nearest names come first, and every one of them can be run. -/
structure Suggests (registry : Registry) (address : Address) (name : String)
    (suggestions : List String) : Prop where
  few : suggestions.length ≤ 3
  once : suggestions.Nodup
  known : ∀ text ∈ suggestions,
    ∃ known, IsNear registry.tables address name known ∧ text = address.qualify known
  nearest : ∃ ordered, Text.NearestFirst name (IsNear registry.tables address name) ordered ∧
    suggestions = ((ordered.map address.qualify).eraseDups).take 3
  heard : ∀ text ∈ suggestions, ∃ handler, Reaches registry text handler

variable {tables : Tables} {registry : Registry} {address : Address} {name : String}

theorem Unpadded.of_all
    (solid : (Namespaces.places tables.handlers).all (fun place =>
      place.2.toList.getLast?.all fun c => !Text.isBlank c) = true) : Unpadded tables := by
  intro place member c last
  have check := List.all_eq_true.1 solid place member
  rw [Option.mem_def.1 last] at check
  simpa using check

theorem mem_names_iff {known : String} :
    known ∈ tables.names address ↔
      (Namespaces.find? tables.handlers address known).isSome = true := by
  rw [Tables.names, SortedMap.mem_keys_iff]
  rfl

theorem nearestFirst_names (tables : Tables) (address : Address) (name : String) :
    Text.NearestFirst name
      (fun known => (Namespaces.find? tables.handlers address known).isSome = true)
      ((Text.nearest name (tables.names address)).map Text.Ranked.name) := by
  obtain ⟨mem_iff, sorted⟩ := Text.nearestFirst_nearest name
    (SortedMap.nodup_keys (Namespaces.space tables.handlers address))
  exact ⟨fun known => (mem_iff known).trans mem_names_iff, sorted⟩

/-- The names at an address that are near to another one, the nearest first. -/
def nearNames (tables : Tables) (address : Address) (name : String) : List String :=
  ((Text.nearest name (tables.names address)).map Text.Ranked.name).filter
    fun known => decide (Text.editDistance name known ≤ 3)

theorem nearestFirst_nearNames :
    Text.NearestFirst name (IsNear tables address name) (nearNames tables address name) := by
  have nearestFirst := (nearestFirst_names tables address name).filter
    fun known => decide (Text.editDistance name known ≤ 3)
  simp only [decide_eq_true_eq] at nearestFirst
  exact nearestFirst

theorem suggestions_eq :
    tables.suggestions address name =
      (((nearNames tables address name).map address.qualify).eraseDups).take 3 := by
  have measured : ∀ ranked ∈ Text.nearest name (tables.names address),
      decide (ranked.distance ≤ Tables.greatestDistance) =
        decide (Text.editDistance name ranked.name ≤ 3) := by
    intro ranked member
    rw [(Text.mem_nearest_iff.1 member).2, Tables.greatestDistance]
  rw [Tables.suggestions, nearNames, List.filter_map, List.map_map,
    List.filter_congr measured]
  rfl

/-- A stored core name is found with a slash. -/
theorem exists_handler?_spelled
    (stored : (Namespaces.find? tables.handlers address name).isSome = true) :
    ∃ handler, tables.handler? address (spelled address name) = some handler := by
  obtain ⟨handler, found⟩ := Option.isSome_iff_exists.1 stored
  cases core : address.isCore with
  | false =>
      rw [spelled, core, if_neg Bool.false_ne_true]
      exact ⟨handler, Tables.handler?_of_find? found⟩
  | true =>
      obtain rfl := Address.eq_core_of_isCore core
      rw [spelled, core, if_pos rfl, Address.slashed]
      cases slashed : Address.isSlashed name with
      | true => exact ⟨handler, Tables.handler?_of_find? found⟩
      | false =>
          rw [if_neg Bool.false_ne_true]
          cases beside : Namespaces.find? tables.handlers .core ("/" ++ name) with
          | some other => exact ⟨other, Tables.handler?_of_find? beside⟩
          | none =>
              rw [Tables.handler?_core_of_free beside, respelled_slash]
              exact ⟨handler, found⟩

/-- The qualified form of a registered name is heard. -/
theorem exists_reaches_qualify (readsBack : ReadsBack address) {known : String}
    (stored : (Namespaces.find? registry.tables.handlers address known).isSome = true)
    (ends : ∀ c ∈ known.toList.getLast?, Text.isBlank c = false) :
    ∃ handler, Reaches registry (address.qualify known) handler := by
  obtain ⟨handler, found⟩ := exists_handler?_spelled stored
  refine ⟨handler, reaches_iff.2 ?_⟩
  rw [found?, resolve_qualify readsBack.colon ends, readsBack.same]
  exact found

theorem suggests_suggestions (unpadded : Unpadded registry.tables)
    (readsBack : ReadsBack address) (name : String) :
    Suggests registry address name (registry.tables.suggestions address name) := by
  have near : ∀ text ∈ registry.tables.suggestions address name,
      ∃ known, IsNear registry.tables address name known ∧ text = address.qualify known := by
    intro text member
    rw [suggestions_eq] at member
    obtain ⟨known, isNear, rfl⟩ :=
      List.mem_map.1 (List.mem_eraseDups.1 (List.mem_of_mem_take member))
    exact ⟨known, (nearestFirst_nearNames.mem_iff known).1 isNear, rfl⟩
  refine ⟨List.length_take_le _ _, ?_, near, ⟨_, nearestFirst_nearNames, suggestions_eq⟩, ?_⟩
  · exact (nodup_eraseDups _).sublist (List.take_sublist _ _)
  · intro text member
    obtain ⟨known, ⟨stored, _⟩, rfl⟩ := near text member
    exact exists_reaches_qualify readsBack stored
      (unpadded (address, known) (Namespaces.mem_places_iff.2 stored))

/-- A text that no handler is found for fails and changes nothing, and what it is answered
with are suggestions for the name and at the address that it stands for. -/
theorem execute_of_missing (unpadded : Unpadded registry.tables) {full : String}
    (missing : registry.found? full = none) :
    ∃ reply, (∀ args flags, registry.execute full args flags = (registry, .done reply)) ∧
      reply.success = false ∧
      Suggests registry (resolve full).1 (resolve full).2 reply.suggestions := by
  refine ⟨Reply.ofFailure (Registry.missing registry.tables (resolve full).1 (resolve full).2),
    ?_, rfl, suggests_suggestions unpadded (readsBack_of_text full) _⟩
  intro args flags
  rw [found?] at missing
  simp only [execute, missing]

/-- A misspelt core command.  Two of the names near to it have different spellings. -/
theorem execute_of_missing_modls :
    let fresh := ofPlugins .empty ⟨[], none⟩
    Unpadded fresh.tables ∧ fresh.found? "/modls" = none ∧
      ∃ reply, (∀ args flags, fresh.execute "/modls" args flags = (fresh, .done reply)) ∧
        reply.success = false ∧
        Suggests fresh (resolve "/modls").1 (resolve "/modls").2 reply.suggestions := by
  intro fresh
  have unpadded : Unpadded fresh.tables := .of_all (by decide +kernel)
  have missing : fresh.found? "/modls" = none := by decide +kernel
  exact ⟨unpadded, missing, execute_of_missing unpadded missing⟩

end ChatOps.Registry
