import ChatOps.Command
import ChatOps.Proofs.Reply.Outcome
import ChatOps.Proofs.SortedMap
import ChatOps.Usage
import Mathlib.Data.List.Nodup

/-!
# Written records

A record is written as an object with a member for each field that has a value.  Reading its
fields by name gives these values, whichever of the others were left out
(`fields?_present`).  So what replies, commands and usage notes are written as is read as what
they were, and a written reply is taken for a reply by whoever does not know what it is
(`ofJson?_written`).  Only data that are null come back as no data.
-/

set_option autoImplicit false

namespace ChatOps

namespace Json

/-! ## Fields -/

/-- The members for the fields that have a value. -/
def present (record : List (Field × Option Json)) : List (String × Json) :=
  record.filterMap fun entry => entry.2.map fun value => (entry.1.name, value)

variable {record : List (Field × Option Json)} {members : List (String × Json)}

theorem mem_present_iff {name : String} {value : Json} :
    (name, value) ∈ present record ↔
      ∃ entry ∈ record, entry.1.name = name ∧ entry.2 = some value := by
  simp only [present, List.mem_filterMap, Option.map_eq_some_iff, Prod.mk.injEq]
  constructor
  · rintro ⟨entry, member, _, isValue, sameName, rfl⟩
    exact ⟨entry, member, sameName, isValue⟩
  · rintro ⟨entry, member, sameName, isValue⟩
    exact ⟨entry, member, value, isValue, sameName, rfl⟩

theorem names_present_sublist (record : List (Field × Option Json)) :
    ((present record).map Prod.fst).Sublist (record.map fun entry => entry.1.name) := by
  induction record with
  | nil => exact .slnil
  | cons entry rest inductionHypothesis =>
      obtain ⟨field, value⟩ := entry
      cases value with
      | none => exact inductionHypothesis.cons _
      | some value => exact inductionHypothesis.cons_cons _

/-- A field finds its value, or nothing if it has none. -/
theorem get?_present (distinct : (record.map fun entry => entry.1.name).Nodup)
    {entry : Field × Option Json} (member : entry ∈ record) :
    (SortedMap.ofList (present record)).get? entry.1.name = entry.2 := by
  have distinctNames := distinct.sublist (names_present_sublist record)
  cases isValue : entry.2 with
  | some value =>
      exact SortedMap.get?_ofList_of_mem distinctNames
        (mem_present_iff.2 ⟨entry, member, rfl, isValue⟩)
  | none =>
      apply SortedMap.get?_ofList_of_notMem
      intro isPresent
      obtain ⟨⟨_, value⟩, valueMember, rfl⟩ := List.mem_map.1 isPresent
      obtain ⟨other, otherMember, sameName, otherValue⟩ := mem_present_iff.1 valueMember
      have same := List.inj_on_of_nodup_map distinct otherMember member sameName
      rw [same, isValue] at otherValue
      cases otherValue

theorem fieldsByName?_eq
    (found : ∀ entry ∈ record, SortedMap.find? entry.1.name members = entry.2)
    (complete : ∀ entry ∈ record, entry.1.presence = .required → entry.2.isSome = true) :
    fieldsByName? members (record.map Prod.fst) = some (record.map Prod.snd) := by
  induction record with
  | nil => rfl
  | cons entry rest inductionHypothesis =>
      obtain ⟨entryFound, restFound⟩ := List.forall_mem_cons.1 found
      obtain ⟨entryComplete, restComplete⟩ := List.forall_mem_cons.1 complete
      rw [List.map_cons, List.map_cons, fieldsByName?, entryFound,
        inductionHypothesis restFound restComplete]
      cases isValue : entry.2 with
      | some value => rfl
      | none =>
          rw [isValue] at entryComplete
          have notRequired : entry.1.presence ≠ .required := fun required =>
            Bool.false_ne_true (entryComplete required)
          simp only [if_neg notRequired, Option.map_some]

/-- The fields of a written record have the values that it was written from. -/
theorem fields?_present (record : List (Field × Option Json))
    (distinct : (record.map fun entry => entry.1.name).Nodup)
    (complete : ∀ entry ∈ record, entry.1.presence = .required → entry.2.isSome = true) :
    (ofMembers (present record)).fields? (record.map Prod.fst) =
      some (record.map Prod.snd) :=
  fieldsByName?_eq (fun _ member => get?_present distinct member) complete

/-! ## Values -/

theorem optional?_ofOption {Value : Type} {read : Json → Option Value} {write : Value → Json}
    (reads : ∀ value, read (write value) = some value) (notNull : ∀ value, write value ≠ .null)
    (value : Option Value) : optional? read (some (ofOption write value)) = some value := by
  cases value with
  | none => rfl
  | some value =>
      rw [optional?, Option.getD_some, ofOption]
      cases written : write value with
      | null => exact absurd written (notNull value)
      | _ => simp [asOption?, ← written, reads value]

theorem getD_map_null {Value : Type} (write : Value → Json) (value : Option Value) :
    (value.map write).getD .null = ofOption write value := by
  cases value <;> rfl

theorem asStrings?_ofStrings (texts : List String) :
    (ofStrings texts).asStrings? = some texts := asStrings?_eq_some_iff.2 rfl

theorem asMap?_ofMap (map : JsonMap) : (ofMap map).asMap? = some map := by
  have same : SortedMap.ofList map.entries = map :=
    SortedMap.ext_entries (SortedMap.entries_ofList map.sorted)
  rw [ofMap, asMap?, same]

end Json

theorem Sigil.ofJson?_toJson (sigil : Sigil) : ofJson? sigil.toJson = some sigil := by
  cases sigil <;> decide +kernel

theorem CommandKind.ofJson?_toJson (kind : CommandKind) : ofJson? kind.toJson = some kind := by
  cases kind <;> decide +kernel

theorem Domain.ofJson?_toJson (domain : Domain) : ofJson? domain.toJson = some domain := by
  cases domain <;> decide +kernel

open Json

namespace Address

def record (scheme : String) (name : Json) : List (Field × Option Json) :=
  [(⟨"scheme", .required⟩, some (.string scheme)), (⟨"name", .required⟩, some name)]

theorem ofJson?_object {members : List (String × Json)} {scheme name : Json}
    (read : (Json.object members).fields? fields = some [some scheme, some name]) :
    ofJson? (.object members) =
      ofParts? (choice? Scheme.ofName?) Domain.ofMember? scheme name := by
  unfold ofJson?
  simp only [read]

theorem ofJson?_record (scheme : String) (name : Json) :
    ofJson? (ofMembers (present (record scheme name))) =
      ofParts? (choice? Scheme.ofName?) Domain.ofMember? (.string scheme) name :=
  ofJson?_object
    (fields?_present (record scheme name) (by simp [record]) (by simp [record]))

theorem ofJson?_toJson (address : Address) : ofJson? address.toJson = some address := by
  cases address with
  | agent id => exact ofJson?_record "agent" (.string id)
  | domain place =>
      have read : Domain.ofMember? place.toJson = some place := Domain.ofJson?_toJson place
      have parts : ofParts? (choice? Scheme.ofName?) Domain.ofMember? (.string "domain")
          place.toJson = (Domain.ofMember? place.toJson).map Address.domain := rfl
      exact (ofJson?_record "domain" place.toJson).trans (parts.trans (by rw [read]; rfl))

end Address

namespace Usage

def record (usage : Usage) : List (Field × Option Json) :=
  [(⟨"address", .required⟩, some usage.address.toJson),
    (⟨"command", .required⟩, some (.string usage.command)),
    (⟨"description", .required⟩, some (.string usage.description)),
    (⟨"syntax", .required⟩, some (.string usage.syntaxLine)),
    (⟨"examples", .defaulted⟩, some (ofStrings usage.examples)),
    (⟨"flags", .defaulted⟩, some (ofStrings usage.flags))]

theorem ofJson?_toJson (usage : Usage) : ofJson? usage.toJson = some usage := by
  have read : usage.toJson.fields? fields = some (usage.record.map Prod.snd) :=
    fields?_present usage.record (by simp [record]) (by simp [record])
  rw [ofJson?, read]
  simp [record, given?, defaulted?, asString?, Address.ofJson?_toJson, asStrings?_ofStrings]

end Usage

namespace Command

def record (command : Command) : List (Field × Option Json) :=
  [(⟨"prefix", .required⟩, some command.sigil.toJson),
    (⟨"kind", .required⟩, some command.kind.toJson),
    (⟨"domain", .optional⟩, some (ofOption Domain.toJson command.domain)),
    (⟨"agent_id", .required⟩, some (.string command.agent)),
    (⟨"command", .required⟩, some (.string command.name)),
    (⟨"sub_command", .optional⟩, some (ofOption .string command.sub)),
    (⟨"args", .required⟩, some (.array command.args)),
    (⟨"flags", .required⟩, some (ofMap command.flags)),
    (⟨"options", .required⟩, some (ofMap command.options)),
    (⟨"raw_input", .required⟩, some (.string command.raw))]

theorem ofJson?_toJson (command : Command) : ofJson? command.toJson = some command := by
  have read : command.toJson.fields? fields = some (command.record.map Prod.snd) :=
    fields?_present command.record (by simp [record]) (by simp [record])
  have domain : optional? Domain.ofJson? (some (ofOption Domain.toJson command.domain)) =
      some command.domain :=
    optional?_ofOption Domain.ofJson?_toJson (by simp [Domain.toJson]) command.domain
  have sub : optional? asString? (some (ofOption .string command.sub)) = some command.sub :=
    optional?_ofOption (by simp [asString?]) (by simp) command.sub
  rw [ofJson?, read]
  simp [record, given?, asString?, asArray?, asMap?_ofMap, domain, sub, Sigil.ofJson?_toJson,
    CommandKind.ofJson?_toJson]

end Command

namespace Reply

def record (reply : Reply) : List (Field × Option Json) :=
  [(⟨"success", .required⟩, some (.bool reply.success)),
    (⟨"message", .defaulted⟩, reply.message.map .string),
    (⟨"content", .defaulted⟩, reply.content.map .string),
    (⟨"data", .defaulted⟩, reply.data),
    (⟨"error", .defaulted⟩, reply.error.map .string),
    (⟨"displayMode", .defaulted⟩, some reply.mode.toJson),
    (⟨"suggestedNextCommands", .defaulted⟩,
      if reply.suggestions.isEmpty then none else some (ofStrings reply.suggestions))]

theorem toJson_eq (reply : Reply) : reply.toJson = ofMembers (present reply.record) := by
  obtain ⟨success, message, content, data, error, mode, suggestions⟩ := reply
  rw [toJson]
  congr 1
  cases message <;> cases content <;> cases data <;> cases error <;> cases suggestions <;> rfl

/-- A reply as it is read back: data that are null are not told from no data. -/
def withoutNull (reply : Reply) : Reply :=
  { reply with
    data :=
      match reply.data with
      | some .null => none
      | data => data }

theorem describedBy_of_found {reply : Reply} {members : List (String × Json)}
    (found : ∀ entry ∈ reply.record, SortedMap.find? entry.1.name members = entry.2) :
    reply.withoutNull.DescribedBy members := by
  simp only [record, List.forall_mem_cons] at found
  obtain ⟨success, message, content, data, error, mode, suggestions, _⟩ := found
  constructor
  case success => exact success
  case message =>
    rw [message]
    exact getD_map_null .string reply.message
  case content =>
    rw [content]
    exact getD_map_null .string reply.content
  case data =>
    rw [data, withoutNull]
    cases reply.data with
    | none => exact ⟨rfl, nofun⟩
    | some value => cases value <;> exact ⟨rfl, nofun⟩
  case error =>
    rw [error]
    exact getD_map_null .string reply.error
  case mode =>
    rw [mode]
    exact .name
  case suggestions =>
    rw [suggestions]
    cases listed : reply.suggestions <;> simp [withoutNull, listed]

theorem described_toJson (reply : Reply) :
    ∃ members, reply.toJson = .object members ∧ reply.withoutNull.DescribedBy members := by
  have distinct : (reply.record.map fun entry => entry.1.name).Nodup := by simp [record]
  exact ⟨_, reply.toJson_eq, describedBy_of_found fun _ member => get?_present distinct member⟩

theorem ofJson?_toJson (reply : Reply) : ofJson? reply.toJson = some reply.withoutNull := by
  obtain ⟨members, written, described⟩ := reply.described_toJson
  rw [written]
  exact ofJson?_object_iff.2 described

end Reply

theorem Output.classify_toJson (reply : Reply) :
    classify reply.toJson = .reply reply.withoutNull := by
  obtain ⟨members, written, described⟩ := reply.described_toJson
  rw [written, classify_of_declared described.success, Reply.ofJson?_object_iff.2 described]

/-- Written replies, commands and usage notes are read as what they were, but for data that
are null, and a written reply among untyped values is taken for the reply that it is. -/
theorem ofJson?_written :
    (∀ reply : Reply, Reply.ofJson? reply.toJson = some reply.withoutNull ∧
      Output.classify reply.toJson = .reply reply.withoutNull) ∧
      (∀ command : Command, Command.ofJson? command.toJson = some command) ∧
      ∀ usage : Usage, Usage.ofJson? usage.toJson = some usage :=
  ⟨fun reply => ⟨reply.ofJson?_toJson, Output.classify_toJson reply⟩,
    Command.ofJson?_toJson, Usage.ofJson?_toJson⟩

end ChatOps
