import ChatOps.Proofs.Command.ReadWeight
import ChatOps.Proofs.Command.RoundTrip
import ChatOps.Proofs.Json.Bracketed

/-!
# Commands that come from a text

Not every command that is read makes a round trip, and the ones that do are known
exactly (`roundTrips_iff_faithful`).  A text that is not legible is read as something
lighter, and so as another command; on a legible line nothing but the head, the looks
of the arguments and the values can go wrong.
-/

set_option autoImplicit false

namespace ChatOps

open ChatOps.Text ChatOps.Token

/-! ## Items of commands -/

/-- Where an item comes from: what its token looks like. -/
def Item.ComesFrom (tokens : List String) : Item → Prop
  | .positional value =>
      ∃ token ∈ tokens, Shape.ofToken token = .positional ∧ value = inferValue token
  | .flag key _ =>
      key ≠ "" ∧
        ('=' ∉ key.toList ∨ ∃ token ∈ tokens, Shape.ofToken token = .short key)
  | .option key _ => isIdentifier key.toList = true ∧ isDashed key = false

theorem Item.ComesFrom.mono {tokens more : List String} {item : Item}
    (known : item.ComesFrom tokens) (subset : ∀ token ∈ tokens, token ∈ more) :
    item.ComesFrom more := by
  cases item with
  | positional value =>
      obtain ⟨token, member, rest⟩ := known
      exact ⟨token, subset token member, rest⟩
  | flag key value =>
      obtain ⟨nonempty, equals | ⟨token, member, short⟩⟩ := known
      · exact ⟨nonempty, .inl equals⟩
      · exact ⟨nonempty, .inr ⟨token, subset token member, short⟩⟩
  | option key value => exact known

theorem comesFrom_item? {token : String} {item : Item}
    (alone : (Shape.ofToken token).item? token = some item) : item.ComesFrom [token] := by
  have spelt := isSpelt_ofToken token
  cases shape : Shape.ofToken token with
  | long key value =>
      rw [shape] at alone spelt
      cases alone
      cases value with
      | none => exact ⟨spelt.2.1, .inl spelt.2.2⟩
      | some value => exact ⟨spelt.2.1, .inl spelt.2.2⟩
  | short key =>
      rw [shape] at alone
      cases alone
  | option key value =>
      rw [shape] at alone spelt
      cases alone
      exact spelt.2
  | positional =>
      rw [shape] at alone
      cases alone
      exact ⟨token, List.mem_cons_self, shape, rfl⟩

theorem comesFrom_short {token key : String} (short : Shape.ofToken token = .short key)
    (value : Json) : (Item.flag key value).ComesFrom [token] := by
  have spelt := isSpelt_ofToken token
  rw [short] at spelt
  exact ⟨spelt.2.1, .inr ⟨token, List.mem_cons_self, short⟩⟩

theorem comesFrom_of_readAs {tokens : List String} {items : List Item}
    (read : ReadAs tokens items) : ∀ item ∈ items, item.ComesFrom tokens := by
  induction read with
  | nil => simp
  | @alone token rest item items alone _ inductionHypothesis =>
      have first : item.ComesFrom (token :: rest) := (comesFrom_item? alone).mono (by simp)
      exact List.forall_mem_cons.2 ⟨first, fun later member =>
        (inductionHypothesis later member).mono fun _ => List.mem_cons_of_mem token⟩
  | @bare token key rest items short _ inductionHypothesis =>
      have first : (Item.flag key (.bool true)).ComesFrom (token :: rest) :=
        (comesFrom_short short _).mono (by simp)
      exact List.forall_mem_cons.2 ⟨first, fun later member =>
        (inductionHypothesis later member).mono fun _ => List.mem_cons_of_mem token⟩
  | @valued token key next rest items short _ inductionHypothesis =>
      have first : (Item.flag key (inferValue next)).ComesFrom (token :: next :: rest) :=
        (comesFrom_short short _).mono (by simp)
      exact List.forall_mem_cons.2 ⟨first, fun later member =>
        (inductionHypothesis later member).mono fun _ inRest =>
          List.mem_cons_of_mem token (List.mem_cons_of_mem next inRest)⟩

/-- Whether all arguments are among the items. -/
structure Arguments.Among (items : List Item) (arguments : Arguments) : Prop where
  args : ∀ value ∈ arguments.args, .positional value ∈ items
  flags : ∀ flag ∈ arguments.flags.entries, .flag flag.1 flag.2 ∈ items
  options : ∀ option ∈ arguments.options.entries, .option option.1 option.2 ∈ items

theorem Arguments.Among.add {items : List Item} {arguments : Arguments}
    (among : arguments.Among items) {item : Item} (member : item ∈ items) :
    (arguments.add item).Among items := by
  cases item with
  | positional value =>
      refine ⟨?_, among.flags, among.options⟩
      intro other inArgs
      rcases List.mem_append.1 inArgs with older | newest
      · exact among.args other older
      · rw [List.mem_singleton.1 newest]
        exact member
  | flag key value =>
      refine ⟨among.args, ?_, among.options⟩
      intro flag inFlags
      rcases SortedMap.mem_place inFlags with newest | older
      · rw [newest]
        exact member
      · exact among.flags flag older
  | option key value =>
      refine ⟨among.args, among.flags, ?_⟩
      intro option inOptions
      rcases SortedMap.mem_place inOptions with newest | older
      · rw [newest]
        exact member
      · exact among.options option older

theorem Arguments.among_foldl {all : List Item} {items : List Item} {arguments : Arguments}
    (among : arguments.Among all) (subset : ∀ item ∈ items, item ∈ all) :
    (items.foldl Arguments.add arguments).Among all := by
  induction items generalizing arguments with
  | nil => exact among
  | cons item rest inductionHypothesis =>
      exact inductionHypothesis (among.add (subset item List.mem_cons_self))
        fun later member => subset later (List.mem_cons_of_mem item member)

theorem Arguments.among_ofItems (items : List Item) : (ofItems items).Among items := by
  refine among_foldl ?_ fun _ member => member
  exact ⟨by simp [Arguments.none], by simp [Arguments.none, SortedMap.empty],
    by simp [Arguments.none, SortedMap.empty]⟩

/-! ## Values that are positional -/

theorem isIdentifier_bracket {c : Char} (bracket : c = '[' ∨ c = '\x7b')
    (rest : List Char) : isIdentifier (c :: rest) = false := by
  rcases bracket with rfl | rfl <;> rfl

/-- A text that opens with a bracket is positional. -/
theorem shape_bracket {token : String} {c : Char} {rest : List Char}
    (bracket : c = '[' ∨ c = '\x7b') (opens : token.toList = c :: rest) :
    Shape.ofToken token = .positional := by
  have plain : token.toList.head? ≠ some '-' := by
    rw [opens, List.head?_cons]
    rcases bracket with rfl | rfl <;> simp
  rw [Shape.ofToken, Shape.ofChars_plain plain, plainShape]
  cases cut : Text.cut? '=' token.toList with
  | none => rfl
  | some halves =>
      obtain ⟨key, value⟩ := halves
      obtain ⟨whole, _⟩ := Text.cut?_eq_some cut
      have notKey : isIdentifier key = false := by
        cases key with
        | nil => rfl
        | cons d others =>
            rw [opens, List.cons_append, List.cons.injEq] at whole
            rw [← whole.1]
            exact isIdentifier_bracket bracket others
      simp [notKey]

theorem shape_null : Shape.ofToken (Output.plainText .null) = .positional := by
  decide +kernel

theorem shape_bool (value : Bool) :
    Shape.ofToken (Output.plainText (.bool value)) = .positional := by
  cases value <;> decide +kernel

theorem shape_array (items : List Json) :
    Shape.ofToken (Output.plainText (.array items)) = .positional := by
  have opens : (Output.plainText (.array items)).toList =
      '[' :: (Json.itemsToChars items ++ [']']) := by
    simp [Output.plainText, Json.text, Json.toChars]
  exact shape_bracket (.inl rfl) opens

theorem shape_object (members : List (String × Json)) :
    Shape.ofToken (Output.plainText (.object members)) = .positional := by
  have opens : (Output.plainText (.object members)).toList =
      '\x7b' :: (Json.membersToChars members ++ ['\x7d']) := by
    simp [Output.plainText, Json.text, Json.toChars]
  exact shape_bracket (.inr rfl) opens

theorem isBracketed_head {text : List Char} (bracketed : isBracketed text = true) :
    ∃ c rest, (c = '[' ∨ c = '\x7b') ∧ text = c :: rest := by
  cases text with
  | nil => cases bracketed
  | cons c rest =>
      refine ⟨c, rest, ?_, rfl⟩
      simp only [isBracketed, List.head?_cons, Bool.or_eq_true, Bool.and_eq_true,
        beq_iff_eq, Option.some.injEq] at bracketed
      rcases bracketed with ⟨brace, _⟩ | ⟨bracket, _⟩
      · exact .inr brace
      · exact .inl bracket

/-- The value of a positional token is positional when it is written, or a number. -/
theorem shape_inferValue {token : String} (positional : Shape.ofToken token = .positional) :
    Shape.ofToken (Output.plainText (inferValue token)) = .positional ∨
      ∃ number, inferValue token = .number number := by
  rw [inferValue]
  split
  · left
    rfl
  · split
    · left
      rfl
    · split
      · next number _ => exact .inr ⟨number, rfl⟩
      · split
        · next bracketed =>
            cases read : Json.ofChars? token.toList with
            | none => exact .inl positional
            | some json =>
                cases json with
                | number number => exact .inr ⟨number, rfl⟩
                | string content =>
                    obtain ⟨c, rest, bracket, opens⟩ := isBracketed_head bracketed
                    rw [opens] at read
                    exact absurd read (Json.ofChars?_bracket_ne_string bracket content)
                | null => exact .inl shape_null
                | bool value => exact .inl (shape_bool value)
                | array items => exact .inl (shape_array items)
                | object members => exact .inl (shape_object members)
        · exact .inl positional

namespace Command

/-- What every command that is read looks like. -/
structure Shaped (command : Command) : Prop where
  head : Addressed command
  args : ∀ value ∈ command.args,
    Shape.ofToken (Output.plainText value) = .positional ∨ ∃ number, value = .number number
  flags : ∀ flag ∈ command.flags.entries, flag.1 ≠ ""
  options : ∀ option ∈ command.options.entries,
    isIdentifier option.1.toList = true ∧ isDashed option.1 = false

theorem Shaped.of_parse {text : String} {command : Command}
    (read : parse text = .ok command) : command.Shaped := by
  obtain ⟨_, token, rest, inner, _, _, equal⟩ := parse_eq_ok_iff.1 read
  have origin := comesFrom_of_readAs (readAs_itemsOf rest)
  have among := Arguments.among_ofItems (itemsOf rest)
  refine ⟨.of_parse read, ?_, ?_, ?_⟩
  · intro value member
    rw [equal] at member
    obtain ⟨token, _, positional, same⟩ := origin _ (among.args value member)
    rw [same]
    exact shape_inferValue positional
  · intro flag member
    rw [equal] at member
    exact (origin _ (among.flags flag member)).1
  · intro option member
    rw [equal] at member
    exact origin _ (among.options option member)

/-! ## Legible lines -/

def scaleOf (words : Nat) : Scale where
  quote := words + 1
  heavy := words + 2 * (words + 1) * words + 2 * (words + 1) + 1
  blank_le := by omega
  quote_le := by omega

theorem fits_scaleOf (words : Nat) : Fits (scaleOf words) words words where
  quote := Nat.lt_succ_self words
  heavy := Nat.lt_succ_self _

theorem length_cutLast (words : List Word) : (cutLast words).length = words.length := by
  induction words with
  | nil => rfl
  | cons word rest inductionHypothesis =>
      by_cases last : rest = []
      · subst last
        rfl
      · rw [cutLast_cons word last, List.length_cons, List.length_cons, inductionHypothesis]

theorem cut_lighter (scale : Scale) (word : Word) :
    word.cut = word ∨ weight scale word.cut.chars < weight scale word.chars := by
  obtain ⟨lead, text⟩ := word
  cases text with
  | some text => exact .inl rfl
  | none =>
      by_cases same : Text.trimEnd lead = lead
      · left
        simp [Word.cut, same]
      · right
        have lighter := weight_trimEnd_lt scale same
        simpa [Word.cut, Word.chars] using lighter

/-- Trimming a line makes it lighter if it changes it at all. -/
theorem cutLast_lighter (scale : Scale) (words : List Word) :
    cutLast words = words ∨ lineWeight scale (cutLast words) < lineWeight scale words := by
  induction words with
  | nil => exact .inl rfl
  | cons word rest inductionHypothesis =>
      by_cases last : rest = []
      · subst last
        rcases cut_lighter scale word with same | lighter
        · left
          rw [cutLast, same]
        · right
          simpa [cutLast, lineWeight] using lighter
      · rw [cutLast_cons word last]
        rcases inductionHypothesis with same | lighter
        · left
          rw [same]
        · right
          rw [lineWeight_cons, lineWeight_cons]
          omega

/-- The text of a command that makes a round trip is legible. -/
theorem RoundTrips.legible {command : Command} (addressed : Addressed command)
    (round : command.RoundTrips) : LegibleLine command.words := by
  obtain ⟨again, read, same⟩ := round
  by_contra illegible
  have fits := fits_scaleOf command.words.length
  have written := lineWeight_congr (scaleOf command.words.length) same
  have weighed := lineWeight_le_of_parse (scaleOf command.words.length) read
  rw [trim_text addressed, written] at weighed
  have present : ∀ word ∈ command.words, word.text = none → word.lead ≠ [] := by
    intro word member noText empty
    obtain ⟨c, inLead, _⟩ := begun_words addressed word member noText
    rw [empty] at inLead
    cases inLead
  rcases cutLast_lighter (scaleOf command.words.length) command.words with uncut | lighter
  · rw [uncut] at weighed
    have lost := scanned_lt_of_not_legible fits present (by simp [words]) illegible
    omega
  · have cutFits : Fits (scaleOf command.words.length) (cutLast command.words).length
        (cutLast command.words).length := by
      rw [length_cutLast]
      exact fits
    have bound := (bounded_line cutFits).outside
    omega

/-! ## Arguments that look like what they are -/

theorem equals_notMem_number (number : Numeral) :
    '=' ∉ (Output.plainText (.number number)).toList := by
  intro member
  have inNumber : '=' ∈ number.toChars := by
    simpa [Output.plainText, Json.text, Json.toChars] using member
  have wrong := isNumberChar_of_mem_numeral number '=' inNumber
  revert wrong
  decide

theorem mem_tail_token {command : Command} {token : String}
    (member : token ∈ command.tail.map Word.token) :
    (∃ value ∈ command.args, token = Output.plainText value) ∨
      (∃ flag ∈ command.flags.entries, token = (flagWord flag).token) ∨
        ∃ option ∈ command.options.entries, token = (optionWord option).token := by
  simp only [tail, List.map_append, List.map_map, List.mem_append, List.mem_map,
    Function.comp_apply] at member
  rcases member with ⟨value, inArgs, same⟩ | ⟨flag, inFlags, same⟩ | ⟨option, inOptions, same⟩
  · exact .inl ⟨value, inArgs, by rw [← same, token_argWord]⟩
  · exact .inr (.inl ⟨flag, inFlags, same.symm⟩)
  · exact .inr (.inr ⟨option, inOptions, same.symm⟩)

/-- A written flag is not a short one: behind its first dash stands another. -/
theorem shape_flagWord_ne_short (flag : String × Json) (key : String) :
    Shape.ofToken (flagWord flag).token ≠ .short key := by
  intro short
  have spelt := isSpelt_ofToken (flagWord flag).token
  rw [short] at spelt
  obtain ⟨whole, _, single⟩ := spelt
  obtain ⟨name, value⟩ := flag
  rcases flagWord_cases name value with ⟨_, shape⟩ | ⟨_, shape⟩
  · rw [shape] at whole
    simp only [Word.token, Word.chars, String.toList_ofList, List.cons_append,
      List.cons.injEq, true_and] at whole
    rw [← whole] at single
    exact single rfl
  · rw [shape] at whole
    simp only [Word.token, Word.chars, String.toList_ofList, List.cons_append,
      List.cons.injEq, true_and] at whole
    rw [← whole] at single
    exact single rfl

/-- Only a number can be written so that it looks like a short flag, and so no key that
is read behind a written head has an equals sign. -/
theorem equals_notMem_of_readAs {command : Command} (shaped : command.Shaped)
    {key : String} {value : Json}
    (member : .flag key value ∈ itemsOf (command.tail.map Word.token)) :
    '=' ∉ key.toList := by
  obtain ⟨_, equals | ⟨token, inTail, short⟩⟩ :=
    comesFrom_of_readAs (readAs_itemsOf _) _ member
  · exact equals
  · have spelt := isSpelt_ofToken token
    rw [short] at spelt
    rcases mem_tail_token inTail with ⟨value, inArgs, same⟩ | ⟨flag, _, same⟩ |
      ⟨option, inOptions, same⟩
    · rcases shaped.args value inArgs with positional | ⟨number, isNumber⟩
      · rw [same, positional] at short
        cases short
      · intro inKey
        apply equals_notMem_number number
        rw [← isNumber, ← same, spelt.1]
        exact List.mem_cons_of_mem _ inKey
    · rw [same] at short
      exact absurd short (shape_flagWord_ne_short flag key)
    · obtain ⟨identifier, plain⟩ := shaped.options option inOptions
      have alone := item?_optionWord identifier plain
      rw [← same, short] at alone
      cases alone

theorem keys_eq_of_sameMembers : {left right : List (String × Json)} →
    Json.sameMembers left right = true → left.map Prod.fst = right.map Prod.fst
  | [], [], _ => rfl
  | (name, _) :: later, (other, _) :: rest, same => by
      rw [Json.sameMembers, Bool.and_eq_true, Bool.and_eq_true, beq_iff_eq] at same
      rw [List.map_cons, List.map_cons, same.1.1, keys_eq_of_sameMembers same.2]

theorem length_eq_of_sameItems : {left right : List Json} →
    Json.sameItems left right = true → left.length = right.length
  | [], [], _ => rfl
  | _ :: later, _ :: rest, same => by
      rw [Json.sameItems, Bool.and_eq_true] at same
      rw [List.length_cons, List.length_cons, length_eq_of_sameItems same.2]

def looksPositional (token : String) : Bool := Shape.ofToken token == .positional

def isPositional : Item → Bool
  | .positional _ => true
  | _ => false

theorem length_args_foldl (items : List Item) (arguments : Arguments) :
    (items.foldl Arguments.add arguments).args.length =
      arguments.args.length + items.countP isPositional := by
  induction items generalizing arguments with
  | nil => simp
  | cons item rest inductionHypothesis =>
      rw [List.foldl_cons, inductionHypothesis]
      cases item <;> simp [Arguments.add, isPositional, List.countP_cons]
      omega

/-- There are no more positional items than tokens that look like them. -/
theorem countP_isPositional_le {tokens : List String} {items : List Item}
    (read : ReadAs tokens items) :
    items.countP isPositional ≤ tokens.countP looksPositional := by
  induction read with
  | nil => exact le_rfl
  | @alone token rest item items alone _ inductionHypothesis =>
      have first : isPositional item = true → looksPositional token = true := by
        intro positional
        cases shape : Shape.ofToken token <;> rw [shape] at alone <;> cases alone
        · cases positional
        · cases positional
        · simp [looksPositional, shape]
      rw [List.countP_cons, List.countP_cons]
      cases positional : isPositional item with
      | true =>
          rw [first positional]
          omega
      | false => simp only [Bool.false_eq_true, if_false]; omega
  | bare short _ inductionHypothesis =>
      rw [List.countP_cons, List.countP_cons]
      simp only [isPositional, Bool.false_eq_true, if_false]
      omega
  | valued short _ inductionHypothesis =>
      rw [List.countP_cons, List.countP_cons, List.countP_cons]
      simp only [isPositional, Bool.false_eq_true, if_false]
      omega

theorem looksPositional_of_item? {token : String} {item : Item}
    (alone : (Shape.ofToken token).item? token = some item)
    (other : isPositional item = false) : looksPositional token = false := by
  rw [looksPositional, beq_eq_false_iff_ne]
  intro shape
  rw [shape] at alone
  cases alone
  cases other

/-- The arguments of a command that makes a round trip look like what they are. -/
theorem RoundTrips.sorted {command : Command} (shaped : command.Shaped)
    (round : command.RoundTrips) : command.Sorted := by
  have legible := round.legible shaped.head
  obtain ⟨again, read, same⟩ := round
  obtain ⟨_, token, rest, inner, tokens, _, equal⟩ := parse_eq_ok_iff.1 read
  rw [split_text shaped.head legible, words, List.map_cons, List.cons.injEq] at tokens
  obtain ⟨_, args, flags, _⟩ := sameMeaning_iff.1 same
  rw [equal, ← tokens.2] at args flags
  have among := Arguments.among_ofItems (itemsOf (command.tail.map Word.token))
  have keys : ∀ flag ∈ command.flags.entries, '=' ∉ flag.1.toList := by
    intro flag member
    have inKeys : flag.1 ∈ command.flags.entries.map Prod.fst := List.mem_map_of_mem member
    rw [← keys_eq_of_sameMembers flags] at inKeys
    obtain ⟨other, inAgain, sameKey⟩ := List.mem_map.1 inKeys
    rw [← sameKey]
    exact equals_notMem_of_readAs shaped (among.flags other inAgain)
  refine ⟨?_, fun flag member => ⟨shaped.flags flag member, keys flag member⟩, shaped.options⟩
  have counted := countP_isPositional_le (readAs_itemsOf (command.tail.map Word.token))
  have length : (itemsOf (command.tail.map Word.token)).countP isPositional =
      command.args.length := by
    rw [← length_eq_of_sameItems args]
    have total := length_args_foldl (itemsOf (command.tail.map Word.token)) Arguments.none
    have start : Arguments.none.args.length = 0 := rfl
    rw [start, Nat.zero_add] at total
    exact total.symm
  have noFlag : (command.flags.entries.map fun flag => (flagWord flag).token).countP
      looksPositional = 0 := by
    rw [List.countP_eq_zero]
    intro token member
    obtain ⟨flag, inFlags, sameToken⟩ := List.mem_map.1 member
    rw [← sameToken, looksPositional_of_item?
      (item?_flagWord (shaped.flags flag inFlags) (keys flag inFlags)) rfl]
    exact Bool.false_ne_true
  have noOption : (command.options.entries.map fun option => (optionWord option).token).countP
      looksPositional = 0 := by
    rw [List.countP_eq_zero]
    intro token member
    obtain ⟨option, inOptions, sameToken⟩ := List.mem_map.1 member
    obtain ⟨identifier, plain⟩ := shaped.options option inOptions
    rw [← sameToken, looksPositional_of_item? (item?_optionWord identifier plain) rfl]
    exact Bool.false_ne_true
  have onlyArgs : (command.tail.map Word.token).countP looksPositional =
      (command.args.map Output.plainText).countP looksPositional := by
    have argTokens : command.args.map (Word.token ∘ argWord) =
        command.args.map Output.plainText :=
      List.map_congr_left fun value _ => token_argWord value
    simp only [tail, List.map_append, List.map_map, List.countP_append, argTokens]
    simp only [Function.comp_def, noFlag, noOption, Nat.add_zero]
  have atMost := List.countP_le_length (p := looksPositional)
    (l := command.args.map Output.plainText)
  have all : (command.args.map Output.plainText).countP looksPositional =
      (command.args.map Output.plainText).length := by
    rw [List.length_map] at atMost ⊢
    omega
  intro value member
  have positional := List.countP_eq_length.1 all (Output.plainText value)
    (List.mem_map_of_mem member)
  simpa [looksPositional] using positional

/-! ## Faithful commands -/

/-- What makes a command go into a text and come back.  The head is read as it was,
every character of the head and of the keys is taken for itself, no flag has an equals
sign in its key, every argument looks positional, and every value is kept. -/
structure Faithful (command : Command) : Prop where
  head : HeadKept command
  legible : LegibleLine command.words
  keys : ∀ flag ∈ command.flags.entries, '=' ∉ flag.1.toList
  positional : ∀ value ∈ command.args,
    Shape.ofToken (Output.plainText value) = .positional
  values : command.ValuesKept

/-- A command that comes from a text makes a round trip just if it is faithful. -/
theorem roundTrips_iff_faithful {text : String} {command : Command}
    (read : parse text = .ok command) : command.RoundTrips ↔ command.Faithful := by
  have shaped := Shaped.of_parse read
  constructor
  · intro round
    have legible := round.legible shaped.head
    have sorted := round.sorted shaped
    obtain ⟨head, values⟩ := (roundTrips_iff_kept shaped.head legible sorted).1 round
    exact ⟨head, legible, fun flag member => (sorted.flags flag member).2, sorted.args,
      values⟩
  · intro faithful
    have sorted : command.Sorted :=
      ⟨faithful.positional,
        fun flag member => ⟨shaped.flags flag member, faithful.keys flag member⟩,
        shaped.options⟩
    exact (roundTrips_iff_kept shaped.head faithful.legible sorted).2
      ⟨faithful.head, faithful.values⟩

theorem roundTrips_iff_faithful_run :
    ∃ command, parse "/run \"a b\" --dry tag=v1" = .ok command ∧
      (command.RoundTrips ↔ command.Faithful) := by
  have accepted : (parse "/run \"a b\" --dry tag=v1").toOption.isSome = true := by
    decide +kernel
  cases read : parse "/run \"a b\" --dry tag=v1" with
  | ok command => exact ⟨command, rfl, roundTrips_iff_faithful read⟩
  | error reason =>
      rw [read] at accepted
      cases accepted

/-- A blank in a quoted name is lost: the text of the command is read as a command with
an argument. -/
theorem not_roundTrips_quoted_name :
    ∃ command, parse "@git:\"a b\"" = .ok command ∧ ¬ command.RoundTrips := by
  have lost : (parse "@git:\"a b\"").toOption.any
      (fun command => !decide command.RoundTrips) = true := by
    decide +kernel
  cases read : parse "@git:\"a b\"" with
  | ok command =>
      rw [read] at lost
      refine ⟨command, rfl, ?_⟩
      simpa [Except.toOption] using lost
  | error reason =>
      rw [read] at lost
      cases lost

end Command

end ChatOps
