import ChatOps.Reply

/-!
# Reading replies

What each way of reading a field accepts, and what an object has to hold to be read as a
reply (`ofJson?_object_iff`): a truth value under `success`, texts or nothing under three
names, a display mode if any, and a list of texts if any.  Whatever else it holds does not
matter.
-/

set_option autoImplicit false

namespace ChatOps

namespace Json

variable {members : List (String × Json)} {name : String} {json value : Json}
  {field : Option Json}

/-! ## Fields by name -/

theorem fieldsByName?_given (found : SortedMap.find? name members = some value)
    (rest : List Field) :
    fieldsByName? members (⟨name, .required⟩ :: rest) =
      (fieldsByName? members rest).map (some value :: ·) := by
  rw [fieldsByName?, found]

theorem fieldsByName?_missing (absent : SortedMap.find? name members = none)
    (rest : List Field) : fieldsByName? members (⟨name, .required⟩ :: rest) = none := by
  rw [fieldsByName?, absent]
  rfl

theorem fieldsByName?_defaulted (name : String) (rest : List Field) :
    fieldsByName? members (⟨name, .defaulted⟩ :: rest) =
      (fieldsByName? members rest).map (SortedMap.find? name members :: ·) := by
  rw [fieldsByName?]
  cases SortedMap.find? name members <;> rfl

theorem fieldsByName?_nil : fieldsByName? members [] = some [] := rfl

/-! ## Values of fields -/

theorem asBool?_eq_some_iff {truth : Bool} :
    json.asBool? = some truth ↔ json = .bool truth := by
  cases json <;> simp [asBool?]

theorem asString?_eq_some_iff {text : String} :
    json.asString? = some text ↔ json = .string text := by
  cases json <;> simp [asString?]

theorem mapM_asString?_eq_some_iff {items : List Json} {texts : List String} :
    items.mapM asString? = some texts ↔ items = texts.map .string := by
  induction items generalizing texts with
  | nil => cases texts <;> simp
  | cons item rest inductionHypothesis =>
      cases texts with
      | nil => simp [Option.bind_eq_some_iff]
      | cons text others =>
          simp [Option.bind_eq_some_iff, asString?_eq_some_iff, inductionHypothesis]

theorem asStrings?_eq_some_iff {texts : List String} :
    json.asStrings? = some texts ↔ json = ofStrings texts := by
  cases json <;> simp [asStrings?, asArray?, ofStrings, mapM_asString?_eq_some_iff]

/-- A field for a text may be missing, null or a string. -/
theorem optional?_asString?_eq_some_iff {text : Option String} :
    optional? asString? field = some text ↔ field.getD .null = ofOption .string text := by
  rw [optional?]
  cases field.getD .null <;> cases text <;> simp [asOption?, asString?, ofOption]

/-- A field for any value may be missing, and null stands for nothing. -/
theorem optional?_some_eq_some_iff {data : Option Json} :
    optional? some field = some data ↔
      field.getD .null = ofOption id data ∧ data ≠ some .null := by
  rw [optional?]
  cases data with
  | none => cases field.getD .null <;> simp [asOption?, ofOption]
  | some value =>
      cases field.getD .null with
      | null => cases value <;> simp [asOption?, ofOption]
      | _ =>
          simp only [asOption?, ofOption, id, Option.map_some, Option.some.injEq]
          constructor
          · rintro rfl
            exact ⟨rfl, by simp⟩
          · exact fun same => same.1

/-- A field for a list of texts may be missing. -/
theorem defaulted?_asStrings?_eq_some_iff {texts : List String} :
    defaulted? [] asStrings? field = some texts ↔
      field.getD (ofStrings []) = ofStrings texts := by
  cases field with
  | none => cases texts <;> simp [defaulted?, ofStrings]
  | some value => exact asStrings?_eq_some_iff

end Json

/-- The two ways of writing a display mode. -/
inductive DisplayMode.Spells (mode : DisplayMode) : Json → Prop where
  | name : Spells mode (.string mode.name)
  | choice : Spells mode (.object [(mode.name, .null)])

theorem DisplayMode.ofName?_eq_some_iff {name : String} {mode : DisplayMode} :
    DisplayMode.ofName? name = some mode ↔ name = mode.name := by
  constructor
  · intro found
    rw [DisplayMode.ofName?] at found
    have equal := List.find?_some found
    exact (beq_iff_eq.1 equal).symm
  · rintro rfl
    cases mode <;> decide

theorem DisplayMode.ofJson?_eq_some_iff {json : Json} {mode : DisplayMode} :
    DisplayMode.ofJson? json = some mode ↔ mode.Spells json := by
  constructor
  · intro read
    unfold DisplayMode.ofJson? Json.choice? at read
    split at read
    · next name =>
        rw [DisplayMode.ofName?_eq_some_iff.1 read]
        exact .name
    · next name =>
        rw [DisplayMode.ofName?_eq_some_iff.1 read]
        exact .choice
    · cases read
  · intro spells
    cases spells <;> exact DisplayMode.ofName?_eq_some_iff.2 rfl

namespace Reply

/-- Whether the members of an object make up a reply.  Null is taken for a text or a value
that is missing, but not for a mode or for suggestions. -/
structure DescribedBy (reply : Reply) (members : List (String × Json)) : Prop where
  success : SortedMap.find? "success" members = some (.bool reply.success)
  message : (SortedMap.find? "message" members).getD .null =
    Json.ofOption .string reply.message
  content : (SortedMap.find? "content" members).getD .null =
    Json.ofOption .string reply.content
  data : (SortedMap.find? "data" members).getD .null = Json.ofOption id reply.data ∧
    reply.data ≠ some .null
  error : (SortedMap.find? "error" members).getD .null = Json.ofOption .string reply.error
  mode : reply.mode.Spells ((SortedMap.find? "displayMode" members).getD (.string "text"))
  suggestions :
    (SortedMap.find? "suggestedNextCommands" members).getD (Json.ofStrings []) =
      Json.ofStrings reply.suggestions

theorem defaulted?_mode_eq_some_iff {field : Option Json} {mode : DisplayMode} :
    Json.defaulted? .text DisplayMode.ofJson? field = some mode ↔
      mode.Spells (field.getD (.string "text")) := by
  rw [← DisplayMode.ofJson?_eq_some_iff]
  cases field <;> rfl

variable {members : List (String × Json)}

theorem fields?_object {success : Json}
    (found : SortedMap.find? "success" members = some success) :
    (Json.object members).fields? fields =
      some [some success, SortedMap.find? "message" members,
        SortedMap.find? "content" members, SortedMap.find? "data" members,
        SortedMap.find? "error" members, SortedMap.find? "displayMode" members,
        SortedMap.find? "suggestedNextCommands" members] := by
  rw [Json.fields?, fields, Json.fieldsByName?_given found]
  simp only [Json.fieldsByName?_defaulted, Json.fieldsByName?_nil, Option.map_some]

/-- An object is read as a reply just if its members make it up. -/
theorem ofJson?_object_iff {reply : Reply} :
    ofJson? (.object members) = some reply ↔ reply.DescribedBy members := by
  cases found : SortedMap.find? "success" members with
  | none =>
      have unread : ofJson? (.object members) = none := by
        rw [ofJson?, Json.fields?, fields, Json.fieldsByName?_missing found]
      rw [unread]
      refine iff_of_false (by simp) fun described => ?_
      rw [described.success] at found
      cases found
  | some success =>
      rw [ofJson?, fields?_object found]
      simp only [Option.bind_eq_bind, Option.bind_eq_some_iff, Json.given?, Option.bind_some,
        Json.asBool?_eq_some_iff, Json.optional?_asString?_eq_some_iff,
        Json.optional?_some_eq_some_iff, defaulted?_mode_eq_some_iff,
        Json.defaulted?_asStrings?_eq_some_iff, Option.some.injEq]
      constructor
      · rintro ⟨truth, rfl, message, isMessage, content, isContent, data, isData, error,
          isError, mode, isMode, suggestions, areSuggestions, rfl⟩
        exact ⟨found, isMessage, isContent, isData, isError, isMode, areSuggestions⟩
      · intro described
        have same := found.symm.trans described.success
        exact ⟨_, Option.some.inj same, _, described.message, _, described.content, _,
          described.data, _, described.error, _, described.mode, _, described.suggestions,
          rfl⟩

end Reply

end ChatOps
