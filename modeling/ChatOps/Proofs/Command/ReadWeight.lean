import ChatOps.Proofs.Command.ScanWeight
import ChatOps.Proofs.Command.Written
import ChatOps.Proofs.Json.Reading

/-!
# Weights of commands

A command weighs what its words weigh.  Equal commands weigh the same, and a command
that is read weighs at most as much as the tokens that it is read from
(`lineWeight_le_of_parse`).
-/

set_option autoImplicit false

namespace ChatOps

open ChatOps.Text ChatOps.Token

variable (scale : Scale)

/-! ## Equal values -/

mutual

theorem Json.weight_congr : (left right : Json) → Json.same left right = true →
    left.weight scale = right.weight scale
  | .null, right, same => by
      cases right <;> first | rfl | cases same
  | .bool left, right, same => by
      cases right with
      | bool right =>
          rw [Json.same, beq_iff_eq] at same
          rw [same]
      | _ => cases same
  | .number left, right, same => by
      cases right with
      | number right => rw [weight_number, weight_number]
      | _ => cases same
  | .string left, right, same => by
      cases right with
      | string right =>
          rw [Json.same, beq_iff_eq] at same
          rw [same]
      | _ => cases same
  | .array left, right, same => by
      cases right with
      | array right =>
          rw [Json.same] at same
          rw [weight_array, weight_array]
          exact Json.itemsWeight_congr left right same
      | _ => cases same
  | .object left, right, same => by
      cases right with
      | object right =>
          rw [Json.same] at same
          rw [weight_object, weight_object]
          exact Json.membersWeight_congr left right same
      | _ => cases same

theorem Json.itemsWeight_congr : (left right : List Json) →
    Json.sameItems left right = true →
      Json.itemsWeight scale left = Json.itemsWeight scale right
  | [], right, same => by
      cases right with
      | nil => rfl
      | cons item rest => cases same
  | first :: later, right, same => by
      cases right with
      | nil => cases same
      | cons item rest =>
          rw [Json.sameItems, Bool.and_eq_true] at same
          have one := Json.weight_congr first item same.1
          have others := Json.itemsWeight_congr later rest same.2
          simp only [Json.itemsWeight, List.map_cons, List.sum_cons] at others ⊢
          omega

theorem Json.membersWeight_congr : (left right : List (String × Json)) →
    Json.sameMembers left right = true →
      Json.membersWeight scale left = Json.membersWeight scale right
  | [], right, same => by
      cases right with
      | nil => rfl
      | cons member rest => cases same
  | (name, first) :: later, right, same => by
      cases right with
      | nil => cases same
      | cons member rest =>
          rw [Json.sameMembers, Bool.and_eq_true, Bool.and_eq_true, beq_iff_eq] at same
          obtain ⟨⟨sameName, sameValue⟩, sameRest⟩ := same
          have one := Json.weight_congr first member.2 sameValue
          have others := Json.membersWeight_congr later rest sameRest
          simp only [Json.membersWeight, List.map_cons, List.sum_cons, sameName] at others ⊢
          omega

end

def valueWeight (value : Json) : Nat := weight scale (Output.plainText value).toList

theorem valueWeight_of_ne_string {value : Json} (other : ∀ content, value ≠ .string content) :
    valueWeight scale value = value.weight scale := by
  cases value with
  | string content => exact absurd rfl (other content)
  | _ => simp [valueWeight, Output.plainText, Json.text, Json.weight]

theorem valueWeight_string (content : String) :
    valueWeight scale (.string content) = weight scale content.toList := rfl

theorem valueWeight_congr {left right : Json} (same : left.same right = true) :
    valueWeight scale left = valueWeight scale right := by
  have equal := Json.weight_congr scale left right same
  cases left with
  | string content =>
      cases right with
      | string other =>
          rw [Json.same, beq_iff_eq] at same
          rw [same]
      | _ => cases same
  | _ =>
      cases right with
      | string other => cases same
      | _ =>
          exact (valueWeight_of_ne_string scale (by simp)).trans
            (equal.trans (valueWeight_of_ne_string scale (by simp)).symm)

/-! ## Values that are read -/

theorem charWeight_le_escape (c : Char) :
    charWeight scale c ≤ weight scale (Json.escape c) := by
  have own := charWeight_le scale c
  have backslash : ∀ rest, charWeight scale c ≤ weight scale ('\\' :: rest) := by
    intro rest
    rw [weight_cons, charWeight_backslash]
    omega
  rw [Json.escape]
  split_ifs
  exacts [backslash _, backslash _, backslash _, backslash _, backslash _, backslash _,
    backslash _, backslash _, by simp]

theorem weight_le_escapedWeight (text : List Char) :
    weight scale text ≤ Json.escapedWeight scale text := by
  induction text with
  | nil => exact le_rfl
  | cons c rest inductionHypothesis =>
      have first := charWeight_le_escape scale c
      rw [weight_cons, Json.escapedWeight_cons]
      omega

theorem valueWeight_le_weight (value : Json) : valueWeight scale value ≤ value.weight scale := by
  cases value with
  | string content =>
      have escaped := weight_le_escapedWeight scale content.toList
      rw [valueWeight_string, Json.weight_string]
      omega
  | _ => exact (valueWeight_of_ne_string scale (by simp)).le

theorem valueWeight_inferValue_le (raw : String) :
    valueWeight scale (inferValue raw) ≤ weight scale raw.toList := by
  rw [inferValue]
  split
  · next isTrue =>
      rw [isTrue]
      exact le_rfl
  · split
    · next isFalse =>
        rw [isFalse]
        exact le_rfl
    · split
      · next numeral _ =>
          rw [valueWeight_of_ne_string scale (by simp), Json.weight_number]
          exact Nat.zero_le _
      · split
        · cases read : Json.ofChars? raw.toList with
          | none => exact le_rfl
          | some json =>
              exact le_trans (valueWeight_le_weight scale json)
                (Json.weight_le_of_ofChars? scale read)
        · exact le_rfl

/-! ## Arguments that are read -/

/-- The weight of a flag: a flag that is true is just its key. -/
def flagWeight (flag : String × Json) : Nat := weight scale (flagWord flag).chars

def optionWeight (option : String × Json) : Nat := weight scale (optionWord option).chars

theorem flagWeight_true (key : String) :
    flagWeight scale (key, .bool true) = weight scale key.toList := by
  have dash : charWeight scale '-' = 0 := rfl
  simp [flagWeight, flagWord, Word.chars, dash]

theorem flagWeight_le (key : String) (value : Json) :
    flagWeight scale (key, value) ≤ weight scale key.toList + valueWeight scale value := by
  have dash : charWeight scale '-' = 0 := rfl
  have equals : charWeight scale '=' = 0 := rfl
  rcases flagWord_cases key value with ⟨same, _⟩ | ⟨_, shape⟩
  · rw [same, flagWeight_true]
    exact Nat.le_add_right _ _
  · rw [flagWeight, shape]
    simp [Word.chars, dash, equals, valueWeight]

theorem optionWeight_eq (key : String) (value : Json) :
    optionWeight scale (key, value) = weight scale key.toList + valueWeight scale value := by
  have equals : charWeight scale '=' = 0 := rfl
  simp [optionWeight, optionWord, Word.chars, equals, valueWeight]

def Item.weight : Item → Nat
  | .positional value => valueWeight scale value
  | .flag key value => flagWeight scale (key, value)
  | .option key value => optionWeight scale (key, value)

/-- An item weighs at most as much as the token that makes it. -/
theorem weight_item?_le {token : String} {item : Item}
    (alone : (Shape.ofToken token).item? token = some item) :
    item.weight scale ≤ weight scale token.toList := by
  have dash : charWeight scale '-' = 0 := rfl
  have equals : charWeight scale '=' = 0 := rfl
  have spelt := isSpelt_ofToken token
  cases shape : Shape.ofToken token with
  | long key value =>
      rw [shape] at alone spelt
      cases alone
      cases value with
      | none =>
          simp only [Item.weight, Option.map_none, Option.getD_none, flagWeight_true, spelt.1,
            weight_cons, dash]
          omega
      | some value =>
          have flag := flagWeight_le scale key (inferValue value)
          have read := valueWeight_inferValue_le scale value
          simp only [Item.weight, Option.map_some, Option.getD_some, spelt.1, weight_cons,
            weight_append, dash, equals]
          omega
  | short key =>
      rw [shape] at alone
      cases alone
  | option key value =>
      rw [shape] at alone spelt
      cases alone
      have read := valueWeight_inferValue_le scale value
      simp only [Item.weight, optionWeight_eq, spelt.1, weight_cons, weight_append, equals]
      omega
  | positional =>
      rw [shape] at alone
      cases alone
      exact valueWeight_inferValue_le scale token

theorem weight_short {token key : String} (short : Shape.ofToken token = .short key) :
    weight scale token.toList = weight scale key.toList := by
  have dash : charWeight scale '-' = 0 := rfl
  have spelt := isSpelt_ofToken token
  rw [short] at spelt
  rw [spelt.1, weight_cons, dash, Nat.zero_add]

def itemsTotal (items : List Item) : Nat := (items.map (Item.weight scale)).sum

def tokensTotal (tokens : List String) : Nat :=
  (tokens.map fun token => weight scale token.toList).sum

/-- Items weigh at most as much as the tokens that they are taken from. -/
theorem itemsTotal_le_of_readAs {tokens : List String} {items : List Item}
    (read : ReadAs tokens items) : itemsTotal scale items ≤ tokensTotal scale tokens := by
  induction read with
  | nil => exact le_rfl
  | alone alone _ inductionHypothesis =>
      have first := weight_item?_le scale alone
      simp only [itemsTotal, tokensTotal, List.map_cons, List.sum_cons] at *
      omega
  | @bare token key rest items short _ inductionHypothesis =>
      have first := weight_short scale short
      have flag := flagWeight_true scale key
      simp only [itemsTotal, tokensTotal, List.map_cons, List.sum_cons, Item.weight] at *
      omega
  | @valued token key next rest items short _ inductionHypothesis =>
      have first := weight_short scale short
      have flag := flagWeight_le scale key (inferValue next)
      have second := valueWeight_inferValue_le scale next
      simp only [itemsTotal, tokensTotal, List.map_cons, List.sum_cons, Item.weight] at *
      omega

def Arguments.weight (arguments : Arguments) : Nat :=
  (arguments.args.map (valueWeight scale)).sum +
    ((arguments.flags.entries.map (flagWeight scale)).sum +
      (arguments.options.entries.map (optionWeight scale)).sum)

theorem Arguments.weight_add_le (arguments : Arguments) (item : Item) :
    (arguments.add item).weight scale ≤ arguments.weight scale + item.weight scale := by
  cases item with
  | positional value =>
      simp only [add, weight, Item.weight, List.map_append, List.sum_append, List.map_cons,
        List.map_nil, List.sum_cons, List.sum_nil]
      omega
  | flag key value =>
      have placed := SortedMap.sum_place_le (flagWeight scale) key value
        arguments.flags.entries
      simp only [add, weight, Item.weight, SortedMap.insert]
      omega
  | option key value =>
      have placed := SortedMap.sum_place_le (optionWeight scale) key value
        arguments.options.entries
      simp only [add, weight, Item.weight, SortedMap.insert]
      omega

theorem Arguments.weight_foldl_le (items : List Item) (arguments : Arguments) :
    (items.foldl add arguments).weight scale ≤
      arguments.weight scale + itemsTotal scale items := by
  induction items generalizing arguments with
  | nil => simp [itemsTotal]
  | cons item rest inductionHypothesis =>
      have first := weight_add_le scale arguments item
      have others := inductionHypothesis (arguments.add item)
      simp only [List.foldl_cons, itemsTotal, List.map_cons, List.sum_cons] at *
      omega

/-- Arguments weigh at most as much as the tokens that they are read from. -/
theorem Arguments.weight_ofTokens_le (tokens : List String) :
    (ofTokens tokens).weight scale ≤ tokensTotal scale tokens := by
  have sorted := weight_foldl_le scale (itemsOf tokens) none
  have read := itemsTotal_le_of_readAs scale (readAs_itemsOf tokens)
  have start : none.weight scale = 0 := rfl
  rw [ofTokens, ofItems]
  omega

namespace Command

/-! ## Heads that are read -/

theorem weight_headText_le (address : Address) (name : String) (sub : Option String) :
    weight scale (headText address name sub).toList ≤
      weight scale address.display.toList + weight scale (segmentChars name sub) := by
  have at_ : charWeight scale '@' = 0 := rfl
  have slash : charWeight scale '/' = 0 := rfl
  have colon : charWeight scale ':' = 0 := rfl
  have qualified : weight scale (address.qualify name).toList ≤
      weight scale address.display.toList + weight scale name.toList := by
    rw [Address.qualify]
    split
    · rw [Address.slashed]
      split
      · exact Nat.le_add_left _ _
      · simp [slash]
    · simp [at_, colon]
  cases sub with
  | none => exact qualified
  | some part =>
      simp only [headText, segmentChars, weight_append, weight_cons, colon]
      split
      · omega
      · simp only [String.toList_append, weight_append]
        have one : weight scale ":".toList = 0 := rfl
        omega

theorem weight_segmentChars_nameAndSub_le {text name : List Char} {sub : Option String}
    (split : nameAndSub text = (name, sub)) :
    weight scale (segmentChars (String.ofList name) sub) ≤ weight scale text := by
  have colon : charWeight scale ':' = 0 := rfl
  rw [nameAndSub] at split
  cases cut : Text.cut? ':' text with
  | none =>
      rw [cut] at split
      cases split
      simp [segmentChars]
  | some halves =>
      obtain ⟨before, after⟩ := halves
      rw [cut] at split
      obtain ⟨whole, _⟩ := Text.cut?_eq_some cut
      rw [whole]
      cases after with
      | nil =>
          cases split
          simp [segmentChars]
      | cons c rest =>
          cases split
          simp [segmentChars]

theorem weight_display_ofTarget_le (target name : String) :
    weight scale (ofTarget target name).address.display.toList ≤
      weight scale target.toList := by
  have trimmed : weight scale (Text.asciiLower (Text.trimmed target)).toList ≤
      weight scale target.toList := by
    have shorter := weight_trim_le scale target.toList
    simpa [Text.asciiLower, Text.trimmed, weight_map_toLower] using shorter
  cases known : Domain.named? target with
  | some place =>
      rw [Domain.named?_eq_some_iff.1 known] at trimmed
      simpa [ofTarget, known, forDomain, address, Address.display] using trimmed
  | none =>
      simpa [ofTarget, known, forAgent, address, Address.display, system] using trimmed

theorem weight_ofSlash_le {name : List Char} {command : Command}
    (read : ofSlash name = .ok command) :
    weight scale command.head.toList ≤ weight scale name := by
  rw [ofSlash] at read
  split at read
  · cases read
  · cases read
    have written := weight_headText_le scale .core (String.ofList name) none
    have core : weight scale Address.core.display.toList = 0 := rfl
    rw [core, Nat.zero_add, segmentChars, String.toList_ofList] at written
    exact written

theorem weight_head_sub_le (command : Command) (sub : Option String) :
    weight scale (head { command with sub := sub }).toList ≤
      weight scale command.address.display.toList +
        weight scale (segmentChars command.name sub) :=
  weight_headText_le scale command.address command.name sub

theorem weight_ofAddressed_le {text : List Char} {command : Command}
    (read : ofAddressed text = .ok command) :
    weight scale command.head.toList ≤ weight scale text := by
  have colon : charWeight scale ':' = 0 := rfl
  rw [ofAddressed] at read
  cases cut : Text.cut? ':' text with
  | none =>
      rw [cut] at read
      cases read
  | some halves =>
      obtain ⟨target, rest⟩ := halves
      rw [cut] at read
      obtain ⟨whole, _⟩ := Text.cut?_eq_some cut
      obtain ⟨name, sub, both⟩ : ∃ name sub, nameAndSub rest = (name, sub) := ⟨_, _, rfl⟩
      simp only [both] at read
      split at read
      · cases read
      · split at read
        · cases read
        · rw [← Except.ok.inj read, whole, weight_append, weight_cons, colon, Nat.zero_add]
          have display := weight_display_ofTarget_le scale (String.ofList target)
            (String.ofList name)
          have segment : weight scale (segmentChars
              (ofTarget (String.ofList target) (String.ofList name)).name sub) ≤
                weight scale rest := by
            rw [name_ofTarget]
            exact weight_segmentChars_nameAndSub_le scale both
          have written := weight_head_sub_le scale
            (ofTarget (String.ofList target) (String.ofList name)) sub
          rw [String.toList_ofList] at display
          omega

/-- A head weighs at most as much as the token that it is read from. -/
theorem weight_head_le {token : String} {command : Command}
    (read : ofHead token = .ok command) :
    weight scale command.head.toList ≤ weight scale token.toList := by
  rw [ofHead] at read
  split at read
  · next name shape =>
      rw [shape, weight_cons]
      exact le_trans (weight_ofSlash_le scale read) (Nat.le_add_left _ _)
  · next text shape =>
      rw [shape, weight_cons]
      exact le_trans (weight_ofAddressed_le scale read) (Nat.le_add_left _ _)
  · cases read

/-! ## Commands that are read -/

theorem lineWeight_words (command : Command) :
    lineWeight scale command.words = weight scale command.head.toList +
      Arguments.weight scale ⟨command.args, command.flags, command.options⟩ := by
  have values : (fun word => weight scale word.chars) ∘ argWord = valueWeight scale := by
    funext value
    simp [argWord, Word.chars, valueWeight]
  have flags : (fun word => weight scale word.chars) ∘ flagWord = flagWeight scale := rfl
  have options : (fun word => weight scale word.chars) ∘ optionWord = optionWeight scale := rfl
  have first : command.headWord.chars = command.head.toList := by simp [headWord, Word.chars]
  rw [words, lineWeight_cons, first]
  simp only [lineWeight, tail, List.map_append, List.map_map, List.sum_append, values, flags,
    options]
  rfl

/-- A command weighs at most as much as the tokens that it is read from. -/
theorem lineWeight_le_of_parse {text : String} {command : Command}
    (read : parse text = .ok command) :
    lineWeight scale command.words ≤ scanned scale none (Text.trim text.toList) := by
  obtain ⟨_, token, rest, inner, tokens, headRead, equal⟩ := parse_eq_ok_iff.1 read
  have first := weight_head_le scale headRead
  have others := Arguments.weight_ofTokens_le scale rest
  have sameHead : command.head = inner.head := by
    rw [equal]
    rfl
  have whole : scanned scale none (Text.trim text.toList) =
      weight scale token.toList + tokensTotal scale rest := by
    have split := congrArg (tokensTotal scale) tokens
    rw [Token.split, Text.trimmed, String.toList_ofList] at split
    simpa [tokensTotal, scanned, tokensWeight, Function.comp_def] using split
  rw [lineWeight_words, sameHead, whole, equal]
  exact Nat.add_le_add first others

theorem sum_map_congr_of_sameItems : {left right : List Json} →
    Json.sameItems left right = true →
      (left.map (valueWeight scale)).sum = (right.map (valueWeight scale)).sum
  | [], [], _ => rfl
  | first :: later, second :: rest, same => by
      rw [Json.sameItems, Bool.and_eq_true] at same
      have one := valueWeight_congr scale same.1
      have others := sum_map_congr_of_sameItems same.2
      simp only [List.map_cons, List.sum_cons]
      omega

theorem same_true_iff {left right : Json} (same : left.same right = true) :
    left = .bool true ↔ right = .bool true := by
  cases left <;> cases right <;> simp_all [Json.same]

theorem flagWeight_congr (key : String) {left right : Json} (same : left.same right = true) :
    flagWeight scale (key, left) = flagWeight scale (key, right) := by
  have equal := valueWeight_congr scale same
  rcases flagWord_cases key left with ⟨leftTrue, leftWord⟩ | ⟨leftOther, leftWord⟩
  · rw [leftTrue, (same_true_iff same).1 leftTrue]
  · rcases flagWord_cases key right with ⟨rightTrue, _⟩ | ⟨_, rightWord⟩
    · exact absurd ((same_true_iff same).2 rightTrue) leftOther
    · rw [flagWeight, flagWeight, leftWord, rightWord]
      simpa [Word.chars, valueWeight] using equal

theorem sum_map_congr_of_sameMembers (measure : String × Json → Nat)
    (congr : ∀ key {left right : Json}, left.same right = true →
      measure (key, left) = measure (key, right)) :
    {left right : List (String × Json)} → Json.sameMembers left right = true →
      (left.map measure).sum = (right.map measure).sum
  | [], [], _ => rfl
  | (name, first) :: later, (other, second) :: rest, same => by
      rw [Json.sameMembers, Bool.and_eq_true, Bool.and_eq_true, beq_iff_eq] at same
      obtain ⟨⟨sameName, sameValue⟩, sameRest⟩ := same
      have one := congr other sameValue
      have others := sum_map_congr_of_sameMembers measure congr sameRest
      simp only [List.map_cons, List.sum_cons, sameName]
      omega

theorem lineWeight_congr {left right : Command} (same : left.sameMeaning right = true) :
    lineWeight scale left.words = lineWeight scale right.words := by
  obtain ⟨sameHead, args, flags, options⟩ := sameMeaning_iff.1 same
  have heads : left.head = right.head := by
    obtain ⟨_, kind, domain, agent, name, sub⟩ := sameHead
    rw [head, head, address, address, kind, domain, agent, name, sub]
  have argsEqual := sum_map_congr_of_sameItems scale args
  have flagsEqual := sum_map_congr_of_sameMembers (flagWeight scale)
    (fun key {_ _} same => flagWeight_congr scale key same) flags
  have optionsEqual := sum_map_congr_of_sameMembers (optionWeight scale)
    (fun key {left right} same => by
      rw [optionWeight_eq, optionWeight_eq, valueWeight_congr scale same]) options
  rw [lineWeight_words, lineWeight_words, heads]
  simp only [Arguments.weight]
  omega

end Command

end ChatOps
