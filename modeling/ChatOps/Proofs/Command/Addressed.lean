import ChatOps.Command.Parser
import ChatOps.Command.Printer
import ChatOps.Proofs.Text.Trimming

/-!
# Heads of commands

The shapes that the head of a command can have, and how a head is read.  Every text
that is read as a command has one of these shapes (`Addressed.of_parse`), and the
head that is written for it is read as the same head unless an agent is the core
agent or a slash command's name begins with a slash (`ofHead_head_iff`).
-/

set_option autoImplicit false

namespace ChatOps

/-! ## Names of domains -/

theorem Domain.asciiLower_name (place : Domain) :
    Text.asciiLower place.name = place.name := by
  cases place <;> decide

theorem Domain.trimmed_name (place : Domain) : Text.trimmed place.name = place.name := by
  cases place <;> decide

theorem Domain.colon_notMem_name (place : Domain) : ':' ∉ place.name.toList := by
  cases place <;> decide

/-- A text names a domain if it is its name apart from case and blanks around it. -/
theorem Domain.named?_eq_some_iff {text : String} {place : Domain} :
    Domain.named? text = some place ↔
      Text.asciiLower (Text.trimmed text) = place.name := by
  constructor
  · intro found
    have equal := List.find?_some found
    rw [Text.sameIgnoringCase, beq_iff_eq, Domain.asciiLower_name] at equal
    exact equal.symm
  · intro equal
    rw [Domain.named?, Domain.all]
    simp only [Text.sameIgnoringCase, equal, Domain.asciiLower_name]
    cases place <;> decide

theorem Domain.name_inj {first second : Domain} (same : first.name = second.name) :
    first = second := by
  have named (place : Domain) : Domain.named? place.name = some place := by
    rw [Domain.named?_eq_some_iff, Domain.trimmed_name, Domain.asciiLower_name]
  exact Option.some.inj ((named first).symm.trans (same ▸ named second))

theorem Domain.named?_eq_none_iff {text : String} :
    Domain.named? text = none ↔
      ∀ place : Domain, Text.asciiLower (Text.trimmed text) ≠ place.name := by
  rw [Option.eq_none_iff_forall_ne_some]
  exact forall_congr' fun place => not_congr Domain.named?_eq_some_iff

namespace Command

/-! ## Shapes -/

def IsSegment (name : String) : Prop := name ≠ "" ∧ ':' ∉ name.toList

/-- What an agent can be called: not like a domain, and without anything that
resolving an address would change. -/
structure IsAgent (agent : String) : Prop where
  nonempty : agent ≠ ""
  trimmed : Text.trimmed agent = agent
  lower : Text.asciiLower agent = agent
  colon : ':' ∉ agent.toList
  domain : ∀ place : Domain, agent ≠ place.name

/-- The head of a command that comes from a text. -/
inductive Addressed (command : Command) : Prop where
  | domain (place : Domain) (sigil : command.sigil = .atSign)
      (kind : command.kind = .domain) (domain : command.domain = some place)
      (agent : command.agent = place.name) (segment : IsSegment command.name)
      (sub : command.sub ≠ some "")
  | agent (sigil : command.sigil = .atSign) (kind : command.kind = .agent)
      (domain : command.domain = none) (agent : IsAgent command.agent)
      (segment : IsSegment command.name) (sub : command.sub ≠ some "")
  | system (sigil : command.sigil = .slash) (kind : command.kind = .system)
      (domain : command.domain = none)
      (agent : command.agent = slashAgent command.name.toList)
      (name : command.name ≠ "") (sub : command.sub = none)

/-- Equality of everything in front of the arguments. -/
structure SameHead (left right : Command) : Prop where
  sigil : left.sigil = right.sigil
  kind : left.kind = right.kind
  domain : left.domain = right.domain
  agent : left.agent = right.agent
  name : left.name = right.name
  sub : left.sub = right.sub

theorem sameMeaning_iff {left right : Command} :
    left.sameMeaning right = true ↔
      SameHead left right ∧ Json.sameItems left.args right.args = true ∧
        Json.sameMap left.flags right.flags = true ∧
        Json.sameMap left.options right.options = true := by
  simp only [sameMeaning, Bool.and_eq_true, beq_iff_eq]
  constructor
  · rintro ⟨⟨⟨⟨⟨⟨⟨⟨sigil, kind⟩, domain⟩, agent⟩, name⟩, sub⟩, args⟩, flags⟩, options⟩
    exact ⟨⟨sigil, kind, domain, agent, name, sub⟩, args, flags, options⟩
  · rintro ⟨⟨sigil, kind, domain, agent, name, sub⟩, args, flags, options⟩
    exact ⟨⟨⟨⟨⟨⟨⟨⟨sigil, kind⟩, domain⟩, agent⟩, name⟩, sub⟩, args⟩, flags⟩, options⟩

theorem Addressed.congr {left right : Command} (same : SameHead left right)
    (addressed : Addressed right) : Addressed left := by
  obtain ⟨sigil, kind, domain, agent, name, sub⟩ := same
  cases addressed with
  | domain place sigil' kind' domain' agent' segment' sub' =>
      exact .domain place (sigil.trans sigil') (kind.trans kind') (domain.trans domain')
        (agent.trans agent') (name ▸ segment') (sub ▸ sub')
  | agent sigil' kind' domain' agent' segment' sub' =>
      exact .agent (sigil.trans sigil') (kind.trans kind') (domain.trans domain')
        (agent ▸ agent') (name ▸ segment') (sub ▸ sub')
  | system sigil' kind' domain' agent' name' sub' =>
      exact .system (sigil.trans sigil') (kind.trans kind') (domain.trans domain')
        (by rw [agent, agent', name]) (name ▸ name') (sub.trans sub')

/-! ## Reading heads -/

theorem isAgent_of_target {target : List Char} (colon : ':' ∉ target)
    (nonempty : Text.trim target ≠ [])
    (unknown : Domain.named? (String.ofList target) = none) :
    IsAgent (Text.asciiLower (Text.trimmed (String.ofList target))) where
  nonempty := by
    intro empty
    apply nonempty
    have noChars := congrArg String.toList empty
    simpa [Text.asciiLower, Text.trimmed] using noChars
  trimmed := by rw [Text.trimmed_asciiLower, Text.trimmed_trimmed]
  lower := Text.asciiLower_asciiLower _
  colon := by
    rw [Text.colon_mem_asciiLower_iff, Text.trimmed, String.toList_ofList,
      String.toList_ofList]
    exact mt Text.mem_of_mem_trim colon
  domain := fun place => Domain.named?_eq_none_iff.1 unknown place

theorem name_ofTarget (target name : String) : (ofTarget target name).name = name := by
  rw [ofTarget]
  split <;> rfl

theorem nameAndSub_eq {text name : List Char} {sub : Option String}
    (split : nameAndSub text = (name, sub)) : ':' ∉ name ∧ sub ≠ some "" := by
  rw [nameAndSub] at split
  cases cut : Text.cut? ':' text with
  | none =>
      rw [cut] at split
      cases split
      exact ⟨Text.cut?_eq_none_iff.1 cut, by simp⟩
  | some halves =>
      obtain ⟨before, after⟩ := halves
      rw [cut] at split
      have absent := (Text.cut?_eq_some cut).2
      cases after with
      | nil =>
          cases split
          exact ⟨absent, by simp⟩
      | cons c rest =>
          cases split
          refine ⟨absent, ?_⟩
          intro empty
          have noChars := congrArg String.toList (Option.some.inj empty)
          simp at noChars

theorem Addressed.of_ofAddressed {text : List Char} {command : Command}
    (read : ofAddressed text = .ok command) : Addressed command := by
  rw [ofAddressed] at read
  cases cut : Text.cut? ':' text with
  | none =>
      rw [cut] at read
      cases read
  | some halves =>
      obtain ⟨target, rest⟩ := halves
      rw [cut] at read
      have targetColon := (Text.cut?_eq_some cut).2
      obtain ⟨name, sub, both⟩ : ∃ name sub, nameAndSub rest = (name, sub) := ⟨_, _, rfl⟩
      obtain ⟨nameColon, subNonempty⟩ := nameAndSub_eq both
      simp only [both] at read
      split at read
      · cases read
      · next targetNonempty =>
          split at read
          · cases read
          · next nameNonempty =>
              rw [← Except.ok.inj read]
              have nameString : String.ofList name ≠ "" := by
                intro empty
                have noChars := congrArg String.toList empty
                rw [String.toList_ofList] at noChars
                exact nameNonempty (by rw [noChars]; rfl)
              have segment : IsSegment (String.ofList name) := by
                refine ⟨nameString, ?_⟩
                rwa [String.toList_ofList]
              cases known : Domain.named? (String.ofList target) with
              | some place =>
                  simp only [ofTarget, known]
                  exact .domain place rfl rfl rfl rfl segment subNonempty
              | none =>
                  simp only [ofTarget, known]
                  have targetSome : Text.trim target ≠ [] := by
                    intro empty
                    exact targetNonempty (by rw [empty]; rfl)
                  exact .agent rfl rfl rfl
                    (isAgent_of_target targetColon targetSome known) segment subNonempty

theorem Addressed.of_ofSlash {name : List Char} {command : Command}
    (read : ofSlash name = .ok command) : Addressed command := by
  rw [ofSlash] at read
  split at read
  · cases read
  · next nonempty =>
      cases read
      have agent : slashAgent name = slashAgent (String.ofList name).toList := by
        rw [String.toList_ofList]
      have named : String.ofList name ≠ "" := by
        intro empty
        have noChars := congrArg String.toList empty
        rw [String.toList_ofList] at noChars
        exact nonempty (by rw [noChars]; rfl)
      exact .system rfl rfl rfl agent named rfl

theorem Addressed.of_ofHead {head : String} {command : Command}
    (read : ofHead head = .ok command) : Addressed command := by
  rw [ofHead] at read
  split at read
  · exact .of_ofSlash read
  · exact .of_ofAddressed read
  · cases read

/-- A text is read by its first token and the arguments behind it. -/
theorem parse_eq_ok_iff {text : String} {command : Command} :
    parse text = .ok command ↔
      isCommand text = true ∧ ∃ head rest read,
        Token.split (Text.trimmed text) = head :: rest ∧ ofHead head = .ok read ∧
          command = read.withArguments (Arguments.ofTokens rest) (Text.trimmed text) := by
  rw [parse]
  cases isCommand text with
  | false => simp
  | true =>
      cases tokens : Token.split (Text.trimmed text) with
      | nil => simp [tokens]
      | cons head rest =>
          cases reading : ofHead head with
          | error reason => simp [tokens, reading, bind, Except.bind]
          | ok read => simp [tokens, reading, bind, Except.bind, eq_comm]

theorem sameHead_withArguments (command : Command) (arguments : Arguments)
    (raw : String) : SameHead (command.withArguments arguments raw) command :=
  ⟨rfl, rfl, rfl, rfl, rfl, rfl⟩

/-- Every text that is read as a command has a head of one of the three shapes. -/
theorem Addressed.of_parse {text : String} {command : Command}
    (read : parse text = .ok command) : Addressed command := by
  obtain ⟨_, head, rest, inner, _, reading, equal⟩ := parse_eq_ok_iff.1 read
  rw [equal]
  exact .congr (sameHead_withArguments _ _ _) (.of_ofHead reading)

/-! ## Writing heads -/

def head (command : Command) : String :=
  headText command.address command.name command.sub

def segmentChars (name : String) (sub : Option String) : List Char :=
  match sub with
  | some part => name.toList ++ ':' :: part.toList
  | none => name.toList

theorem nameAndSub_segmentChars {name : String} {sub : Option String}
    (segment : IsSegment name) (nonempty : sub ≠ some "") :
    nameAndSub (segmentChars name sub) = (name.toList, sub) := by
  cases sub with
  | none =>
      rw [segmentChars, nameAndSub, Text.cut?_eq_none_iff.2 segment.2]
  | some part =>
      have some : part.toList ≠ [] := by
        intro noChars
        apply nonempty
        rw [String.toList_eq_nil_iff.1 noChars]
      rw [segmentChars, nameAndSub, Text.cut?_append segment.2]
      obtain ⟨c, rest, shape⟩ := List.exists_cons_of_ne_nil some
      simp only [shape]
      rw [← shape, String.ofList_toList]

theorem toList_headText {address : Address} (ordinary : address.isCore = false)
    (name : String) {sub : Option String} (nonempty : sub ≠ some "") :
    (headText address name sub).toList =
      '@' :: (address.display.toList ++ ':' :: segmentChars name sub) := by
  cases sub with
  | none => simp [headText, Address.qualify, ordinary, segmentChars]
  | some part =>
      have kept : part.isEmpty = false := by
        rw [Bool.eq_false_iff]
        intro empty
        apply nonempty
        rw [String.isEmpty_iff.1 empty]
      simp [headText, Address.qualify, ordinary, segmentChars, kept]

theorem headText_core (name : String) :
    headText .core name none = Address.slashed name := rfl

/-- A target and what stands behind its colon are read as they are written. -/
theorem ofHead_addressed {target name : String} {sub : Option String}
    (colon : ':' ∉ target.toList) (nonempty : Text.trim target.toList ≠ [])
    (segment : IsSegment name) (subNonempty : sub ≠ some "") :
    ofHead (String.ofList ('@' :: (target.toList ++ ':' :: segmentChars name sub))) =
      .ok { ofTarget target name with sub := sub } := by
  have nameSome : name.toList ≠ [] := by
    intro noChars
    exact segment.1 (String.toList_eq_nil_iff.1 noChars)
  have targetKept : (Text.trim target.toList).isEmpty = false :=
    List.isEmpty_eq_false_iff.2 nonempty
  have nameKept : name.toList.isEmpty = false := List.isEmpty_eq_false_iff.2 nameSome
  rw [ofHead, String.toList_ofList]
  simp only [ofAddressed]
  rw [Text.cut?_append colon]
  simp only [nameAndSub_segmentChars segment subNonempty, targetKept, nameKept,
    Bool.false_eq_true, ↓reduceIte, String.ofList_toList]

/-- A written address is read as the target that it shows. -/
theorem ofHead_headText (address : Address) (ordinary : address.isCore = false)
    (colon : ':' ∉ address.display.toList)
    (nonempty : Text.trim address.display.toList ≠ []) {name : String}
    {sub : Option String} (segment : IsSegment name) (subNonempty : sub ≠ some "") :
    ofHead (headText address name sub) =
      .ok { ofTarget address.display name with sub := sub } := by
  rw [← ofHead_addressed colon nonempty segment subNonempty,
    ← toList_headText ordinary name subNonempty, String.ofList_toList]

theorem ofHead_slash (name : String) (nonempty : name ≠ "") :
    ofHead ("/" ++ name) =
      .ok { system name with agent := slashAgent name.toList } := by
  have kept : name.toList.isEmpty = false := by
    rw [List.isEmpty_eq_false_iff]
    intro noChars
    exact nonempty (String.toList_eq_nil_iff.1 noChars)
  simp [ofHead, ofSlash, kept]

theorem isSlashed_iff {name : String} :
    Address.isSlashed name = true ↔ ∃ bare, name.toList = '/' :: bare := by
  rw [Address.isSlashed, beq_iff_eq]
  cases name.toList with
  | nil => simp
  | cons c rest => simp

theorem slash_slashed (name : String) : ∃ bare, (Address.slashed name).toList = '/' :: bare := by
  rw [Address.slashed]
  cases slashed : Address.isSlashed name with
  | true => exact isSlashed_iff.1 slashed
  | false => exact ⟨name.toList, by simp⟩

theorem slash_headText_core (name : String) (sub : Option String) :
    ∃ bare, (headText (.agent coreAgent) name sub).toList = '/' :: bare := by
  obtain ⟨bare, shape⟩ := slash_slashed name
  have written : (Address.agent coreAgent).qualify name = Address.slashed name := rfl
  cases sub with
  | none => exact ⟨bare, shape⟩
  | some part =>
      simp only [headText, written]
      split
      · exact ⟨bare, shape⟩
      · exact ⟨bare ++ (":".toList ++ part.toList), by simp [shape]⟩

/-- Whether a head is written so that it is read as the same head. -/
structure HeadKept (command : Command) : Prop where
  agent : command.kind = .agent → command.agent ≠ coreAgent
  slash : command.kind = .system → Address.isSlashed command.name = false

theorem IsAgent.trim_ne_nil {agent : String} (isAgent : IsAgent agent) :
    Text.trim agent.toList ≠ [] := by
  intro empty
  have gone := isAgent.trimmed
  rw [Text.trimmed, empty] at gone
  exact isAgent.nonempty gone.symm

theorem IsAgent.named?_eq_none {agent : String} (isAgent : IsAgent agent) :
    Domain.named? agent = none := by
  rw [Domain.named?_eq_none_iff, isAgent.trimmed, isAgent.lower]
  exact isAgent.domain

/-- The head written for a command is read as a head, and as the same one just if it
is kept. -/
theorem ofHead_head_iff {command : Command} (addressed : Addressed command) :
    (∃ read, ofHead command.head = .ok read ∧ SameHead read command) ↔
      HeadKept command := by
  obtain ⟨sigil, kind, domain, agent, name, sub, args, flags, options, raw⟩ := command
  cases addressed with
  | domain place sigil' kind' domain' agent' segment subNonempty =>
      cases sigil'; cases kind'; cases domain'; cases agent'
      have nonempty : Text.trim place.name.toList ≠ [] := by cases place <;> decide
      have reading := ofHead_headText (.domain place) rfl
        place.colon_notMem_name nonempty segment subNonempty
      have known : Domain.named? place.name = some place :=
        Domain.named?_eq_some_iff.2 (by rw [place.trimmed_name, place.asciiLower_name])
      refine iff_of_true ⟨_, reading, ?_⟩ ⟨by simp, by simp⟩
      simp only [ofTarget, Address.display, known]
      exact ⟨rfl, rfl, rfl, rfl, rfl, rfl⟩
  | agent sigil' kind' domain' isAgent segment subNonempty =>
      cases sigil'; cases kind'; cases domain'
      by_cases core : agent = coreAgent
      · subst core
        refine iff_of_false ?_ fun kept => kept.agent rfl rfl
        rintro ⟨read, reading, same⟩
        -- The core agent is written with a slash, and so with another sign.
        obtain ⟨rest, shape⟩ := slash_headText_core name sub
        have sign := same.sigil
        simp only [head, address] at reading
        simp only [reduceCtorEq, ↓reduceIte] at reading
        rw [ofHead, shape] at reading
        simp only [ofSlash] at reading
        split at reading
        · cases reading
        · cases reading
          cases sign
      · have ordinary : (Address.agent agent).isCore = false := by
          simp [Address.isCore, core]
        have reading := ofHead_headText _ ordinary isAgent.colon isAgent.trim_ne_nil
          segment subNonempty
        refine iff_of_true ⟨_, reading, ?_⟩ ⟨fun _ => core, by simp⟩
        simp only [ofTarget, Address.display, isAgent.named?_eq_none, isAgent.trimmed,
          isAgent.lower]
        exact ⟨rfl, rfl, rfl, rfl, rfl, rfl⟩
  | system sigil' kind' domain' agent' nonempty sub' =>
      cases sigil'; cases kind'; cases domain'; cases sub'
      have written : head ⟨.slash, .system, none, agent, name, none, args, flags, options,
          raw⟩ = Address.slashed name := rfl
      rw [written]
      cases slashed : Address.isSlashed name with
      | true =>
          refine iff_of_false ?_ fun kept => Bool.noConfusion (slashed.symm.trans (kept.slash rfl))
          rintro ⟨read, reading, same⟩
          obtain ⟨bare, shape⟩ := isSlashed_iff.1 slashed
          rw [Address.slashed, slashed, if_pos rfl, ofHead, shape] at reading
          simp only [ofSlash] at reading
          split at reading
          · cases reading
          · cases reading
            have shorter := congrArg (fun text => text.toList.length) same.name
            simp [system, shape] at shorter
      | false =>
          have reading := ofHead_slash name nonempty
          rw [Address.slashed, slashed, if_neg Bool.false_ne_true]
          refine iff_of_true ⟨_, reading, ?_⟩ ⟨by simp, fun _ => slashed⟩
          exact ⟨rfl, rfl, rfl, agent'.symm, rfl, rfl⟩

end Command

end ChatOps
