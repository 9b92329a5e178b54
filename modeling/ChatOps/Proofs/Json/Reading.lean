import ChatOps.Proofs.Json.Weight
import ChatOps.Proofs.SortedMap

/-!
# Reading never adds weight

Each state of the two passes over a JSON text weighs at most as much as what has been
read: one character adds at most its own weight to the lexemes (`LexState.weight_step`),
and one lexeme at most its own to the open values (`BuildState.weight_step`).  So a
value weighs at most as much as the text that it is read from.
-/

set_option autoImplicit false

namespace ChatOps

open ChatOps.Text

variable (scale : Scale)

namespace Json

theorem weight_escape_le (c : Char) : Text.weight scale (escape c) ≤ 2 * scale.heavy := by
  have own := charWeight_le scale c
  have pair : ∀ d, Text.weight scale ['\\', d] ≤ 2 * scale.heavy := by
    intro d
    have letter := charWeight_le scale d
    simp only [weight_cons, weight_nil, charWeight_backslash]
    omega
  have hex : ∀ n, n < 16 → charWeight scale (hexDigit n) = 0 := by
    intro n small
    interval_cases n <;> rfl
  have plain : Text.weight scale [c] ≤ 2 * scale.heavy := by
    rw [weight_cons, weight_nil]
    omega
  have unicode (control : c.toNat < 0x20) : Text.weight scale
      ['\\', 'u', '0', '0', hexDigit (c.toNat / 16), hexDigit (c.toNat % 16)] ≤
        2 * scale.heavy := by
    have high := hex (c.toNat / 16) (by omega)
    have low := hex (c.toNat % 16) (by omega)
    have zero : charWeight scale '0' = 0 := rfl
    have letter : charWeight scale 'u' = scale.heavy := rfl
    simp only [weight_cons, weight_nil, charWeight_backslash, high, low, zero, letter]
    omega
  rw [escape]
  split_ifs with _ _ _ _ _ _ _ control
  exacts [pair _, pair _, pair _, pair _, pair _, pair _, pair _, unicode control, plain]

theorem weight_escape_of_plain {c : Char} (notQuote : c ≠ '"') (notEscape : c ≠ '\\')
    (printable : ¬ c.toNat < 0x20) : Text.weight scale (escape c) = charWeight scale c := by
  have beyond : ∀ d : Char, d.toNat < 0x20 → c ≠ d := by
    rintro d control rfl
    exact printable control
  rw [escape, if_neg notQuote, if_neg notEscape, if_neg (beyond _ (by decide)),
    if_neg (beyond _ (by decide)), if_neg (beyond _ (by decide)),
    if_neg (beyond _ (by decide)), if_neg (beyond _ (by decide)), if_neg printable,
    weight_cons, weight_nil]
  rfl

theorem weight_unescape {c meant : Char} (read : unescape? c = some meant) :
    Text.weight scale (escape meant) ≤ scale.heavy + charWeight scale c := by
  rw [unescape?] at read
  split_ifs at read with itself
  · cases read
    rcases itself with rfl | rfl | rfl
    · exact le_rfl
    · exact le_rfl
    · exact Nat.zero_le _
  all_goals
    cases read
    exact Nat.add_le_add_left (Nat.zero_le _) _

theorem weight_ofWord {word : List Char} {json : Json} (read : ofWord? word = some json) :
    json.weight scale = Text.weight scale word := by
  rw [ofWord?] at read
  split_ifs at read with isNull isTrue isFalse
  · cases read
    rw [isNull]
    rfl
  · cases read
    rw [isTrue]
    rfl
  · cases read
    rw [isFalse]
    rfl

end Json

/-! ## Lexemes -/

/-- The weight of a lexeme: that of the value, if it is one. -/
def Lexeme.weight : Lexeme → Nat
  | .value json => json.weight scale
  | _ => 0

/-- What the characters read so far can still weigh in the next lexeme.  A closing
quote brings its own weight. -/
def LexMode.weight : LexMode → Nat
  | .between => 0
  | .word sofar => Text.weight scale sofar
  | .number _ => 0
  | .text sofar => scale.quote + Json.escapedWeight scale sofar
  | .escape sofar => scale.quote + Json.escapedWeight scale sofar + scale.heavy
  | .code sofar _ _ _ => scale.quote + Json.escapedWeight scale sofar + 2 * scale.heavy
  | .awaitEscape sofar _ =>
      scale.quote + Json.escapedWeight scale sofar + 2 * scale.heavy
  | .awaitCode sofar _ => scale.quote + Json.escapedWeight scale sofar + 2 * scale.heavy

def Lexeme.totalWeight (lexemes : List Lexeme) : Nat := (lexemes.map (weight scale)).sum

@[simp] theorem Lexeme.totalWeight_cons (lexeme : Lexeme) (rest : List Lexeme) :
    totalWeight scale (lexeme :: rest) = lexeme.weight scale + totalWeight scale rest := by
  simp [totalWeight]

def LexState.weight (state : LexState) : Nat :=
  Lexeme.totalWeight scale state.found + state.mode.weight scale

theorem Json.escapedWeight_cons (c : Char) (text : List Char) :
    escapedWeight scale (c :: text) =
      Text.weight scale (escape c) + escapedWeight scale text := by
  simp [escapedWeight]

theorem Json.escapedWeight_reverse (text : List Char) :
    escapedWeight scale text.reverse = escapedWeight scale text := by
  simp [escapedWeight]

theorem LexState.weight_close {state closed : LexState} (read : state.close? = some closed) :
    closed.mode = .between ∧ closed.weight scale = state.weight scale := by
  obtain ⟨found, mode⟩ := state
  cases mode with
  | between =>
      cases read
      exact ⟨rfl, rfl⟩
  | word sofar =>
      obtain ⟨json, word, equal⟩ := Option.bind_eq_some_iff.1 read
      cases equal
      have same := Json.weight_ofWord scale word
      rw [weight_reverse] at same
      refine ⟨rfl, ?_⟩
      simp only [weight, LexMode.weight, Lexeme.totalWeight_cons, Lexeme.weight, same]
      omega
  | number sofar =>
      obtain ⟨numeral, _, equal⟩ := Option.bind_eq_some_iff.1 read
      cases equal
      refine ⟨rfl, ?_⟩
      simp [weight, LexMode.weight, Lexeme.weight, Json.weight_number]
  | text sofar => cases read
  | escape sofar => cases read
  | code sofar high value missing => cases read
  | awaitEscape sofar high => cases read
  | awaitCode sofar high => cases read

theorem LexState.weight_open {state next : LexState} {c : Char}
    (between : state.mode = .between) (read : state.open? c = some next) :
    next.weight scale ≤ state.weight scale + charWeight scale c := by
  obtain ⟨found, mode⟩ := state
  cases between
  by_cases quote : c = '"'
  · subst quote
    have opened : open? ⟨found, .between⟩ '"' = some ⟨found, .text []⟩ := rfl
    rw [opened] at read
    cases read
    simp [weight, LexMode.weight, Json.escapedWeight]
  · simp only [open?] at read
    split_ifs at read <;> cases read <;>
      simp [weight, LexMode.weight, Lexeme.weight]

theorem LexState.weight_endCode {state next : LexState} {sofar : List Char}
    {high : Option Nat} {value : Nat}
    (read : state.endCode? sofar high value = some next) :
    next.weight scale ≤ Lexeme.totalWeight scale state.found + scale.quote +
      Json.escapedWeight scale sofar + 2 * scale.heavy := by
  have meant (code : Nat) := Json.weight_escape_le scale (Char.ofNat code)
  cases high with
  | some upper =>
      simp only [endCode?] at read
      split_ifs at read
      cases read
      have bound := meant (0x10000 + (upper - 0xD800) * 0x400 + (value - 0xDC00))
      simp only [weight, LexMode.weight, Json.escapedWeight_cons]
      omega
  | none =>
      simp only [endCode?] at read
      split_ifs at read
      · cases read
        simp only [weight, LexMode.weight]
        omega
      · cases read
        have bound := meant value
        simp only [weight, LexMode.weight, Json.escapedWeight_cons]
        omega

theorem LexState.weight_close_open {state closed next : LexState} {c : Char}
    (closing : state.close? = some closed) (opening : closed.open? c = some next) :
    next.weight scale ≤ state.weight scale + charWeight scale c := by
  obtain ⟨between, same⟩ := weight_close scale closing
  rw [← same]
  exact weight_open scale between opening

theorem LexState.weight_step {state next : LexState} {c : Char}
    (read : state.step c = some next) :
    next.weight scale ≤ state.weight scale + charWeight scale c := by
  obtain ⟨found, mode⟩ := state
  cases mode with
  | between => exact weight_open scale rfl read
  | word sofar =>
      simp only [step] at read
      split at read
      · cases read
        simp only [weight, LexMode.weight, weight_cons]
        omega
      · obtain ⟨closed, closing, opening⟩ := Option.bind_eq_some_iff.1 read
        exact weight_close_open scale closing opening
  | number sofar =>
      simp only [step] at read
      split at read
      · cases read
        simp only [weight, LexMode.weight]
        omega
      · obtain ⟨closed, closing, opening⟩ := Option.bind_eq_some_iff.1 read
        exact weight_close_open scale closing opening
  | text sofar =>
      simp only [step] at read
      split_ifs at read with quote backslash control
      · cases read
        rw [quote, charWeight_quote]
        simp only [weight, LexMode.weight, Lexeme.totalWeight_cons, Lexeme.weight,
          Json.weight_string, String.toList_ofList, Json.escapedWeight_reverse]
        omega
      · cases read
        rw [backslash, charWeight_backslash]
        simp only [weight, LexMode.weight]
        omega
      · cases read
        have itself := Json.weight_escape_of_plain scale quote backslash control
        simp only [weight, LexMode.weight, Json.escapedWeight_cons, itself]
        omega
  | escape sofar =>
      simp only [step] at read
      split_ifs at read with letter
      · cases read
        have heavy : charWeight scale 'u' = scale.heavy := rfl
        rw [letter, heavy]
        simp only [weight, LexMode.weight]
        omega
      · obtain ⟨meant, unescaped, equal⟩ := Option.bind_eq_some_iff.1 read
        cases equal
        have bound := Json.weight_unescape scale unescaped
        simp only [weight, LexMode.weight, Json.escapedWeight_cons]
        omega
  | code sofar high value missing =>
      simp only [step] at read
      obtain ⟨digit, _, rest⟩ := Option.bind_eq_some_iff.1 read
      split_ifs at rest
      · have bound := weight_endCode scale rest
        simp only [weight, LexMode.weight] at bound ⊢
        omega
      · cases rest
        simp only [weight, LexMode.weight]
        omega
  | awaitEscape sofar high =>
      simp only [step] at read
      split_ifs at read
      cases read
      simp only [weight, LexMode.weight]
      omega
  | awaitCode sofar high =>
      simp only [step] at read
      split_ifs at read
      cases read
      simp only [weight, LexMode.weight]
      omega

theorem LexState.weight_run {text : List Char} {state final : LexState}
    (read : text.foldlM LexState.step state = some final) :
    final.weight scale ≤ state.weight scale + Text.weight scale text := by
  induction text generalizing state with
  | nil =>
      cases read
      simp
  | cons c rest inductionHypothesis =>
      rw [List.foldlM_cons] at read
      obtain ⟨next, first, later⟩ := Option.bind_eq_some_iff.1 read
      have one := weight_step scale first
      have others := inductionHypothesis later
      rw [weight_cons]
      omega

theorem Lexeme.weight_ofChars {text : List Char} {lexemes : List Lexeme}
    (read : ofChars? text = some lexemes) :
    totalWeight scale lexemes ≤ Text.weight scale text := by
  rw [ofChars?] at read
  obtain ⟨final, run, rest⟩ := Option.bind_eq_some_iff.1 read
  obtain ⟨closed, closing, equal⟩ := Option.bind_eq_some_iff.1 rest
  cases equal
  have bound := LexState.weight_run scale run
  obtain ⟨between, same⟩ := LexState.weight_close scale closing
  have start : LexState.start.weight scale = 0 := rfl
  have whole : closed.weight scale = totalWeight scale closed.found := by
    rw [LexState.weight, between]
    rfl
  have turned : totalWeight scale closed.found.reverse = totalWeight scale closed.found := by
    simp [totalWeight]
  omega

/-! ## Values -/

/-- The weight of an open value; a name whose value is still to come counts. -/
def OpenValue.weight (pending : Bool) : OpenValue → Nat
  | .array reversed => Json.itemsWeight scale reversed
  | .object members name =>
      Json.membersWeight scale members.entries +
        if pending then Text.weight scale (Json.quoted name) else 0

/-- The weight of all open values.  Around the innermost one every name waits for its
value. -/
def OpenValue.totalWeight (pending : Bool) : List OpenValue → Nat
  | [] => 0
  | innermost :: outer =>
      innermost.weight scale pending + (outer.map (weight scale true)).sum

/-- Whether the innermost open value waits for the value behind a name. -/
def Expected.isPending : Expected → Bool
  | .value => true
  | .valueOrClose => true
  | .colon => true
  | _ => false

def BuildState.weight (state : BuildState) : Nat :=
  match state.expected with
  | .nothing json => json.weight scale
  | expected => OpenValue.totalWeight scale expected.isPending state.opened

theorem OpenValue.totalWeight_pending (outer : List OpenValue) :
    totalWeight scale true outer = (outer.map (weight scale true)).sum := by
  cases outer <;> rfl

theorem BuildState.weight_deliver (opened : List OpenValue) (json : Json) :
    (deliver opened json).weight scale ≤
      OpenValue.totalWeight scale true opened + json.weight scale := by
  cases opened with
  | nil => simp [deliver, weight]
  | cons innermost outer =>
      cases innermost with
      | array reversed =>
          simp only [deliver, weight, OpenValue.totalWeight, OpenValue.weight,
            Json.itemsWeight, List.map_cons, List.sum_cons]
          omega
      | object members name =>
          have placed := SortedMap.sum_place_le
            (fun member => Text.weight scale (Json.quoted member.1) + member.2.weight scale)
            name json members.entries
          dsimp only at placed
          simp only [Json.membersWeight, deliver, weight, Expected.isPending, OpenValue.totalWeight,
            OpenValue.weight, SortedMap.insert, if_true, Bool.false_eq_true, if_false]
          omega

theorem OpenValue.weight_false_le (pending : Bool) (value : OpenValue) :
    value.weight scale false ≤ value.weight scale pending := by
  cases value with
  | array reversed => exact le_rfl
  | object members name => exact Nat.add_le_add_left (Nat.zero_le _) _

/-- Closing the innermost open value hands on what it weighs. -/
theorem BuildState.weight_close {innermost : OpenValue} {json : Json}
    (lighter : json.weight scale ≤ innermost.weight scale false) (pending : Bool)
    (outer : List OpenValue) :
    (deliver outer json).weight scale ≤
      OpenValue.totalWeight scale pending (innermost :: outer) := by
  have delivered := weight_deliver scale outer json
  have kept := OpenValue.weight_false_le scale pending innermost
  rw [OpenValue.totalWeight_pending] at delivered
  rw [OpenValue.totalWeight]
  omega

theorem BuildState.weight_nest {opened : List OpenValue} {value : OpenValue}
    {expected : Expected} {next : BuildState}
    (read : nest? opened value expected = some next)
    (empty : value.weight scale expected.isPending = 0)
    (unfinished : ∀ json, expected ≠ .nothing json) :
    next.weight scale ≤ OpenValue.totalWeight scale true opened := by
  rw [nest?] at read
  split at read
  · cases read
    have whole : OpenValue.totalWeight scale expected.isPending (value :: opened) =
        OpenValue.totalWeight scale true opened := by
      rw [OpenValue.totalWeight, empty, OpenValue.totalWeight_pending, Nat.zero_add]
    rw [← whole]
    cases expected with
    | nothing json => exact absurd rfl (unfinished json)
    | _ => exact le_rfl
  · cases read

/-- A name is pending until its value has come. -/
theorem BuildState.weight_name (members : JsonMap) (old name : String)
    (outer : List OpenValue) :
    weight scale ⟨.object members name :: outer, .colon⟩ ≤
      OpenValue.totalWeight scale false (.object members old :: outer) +
        (Json.string name).weight scale := by
  simp only [weight, OpenValue.totalWeight, OpenValue.weight, Expected.isPending,
    Json.weight, Json.toChars, if_true, Bool.false_eq_true, if_false]
  omega

theorem Json.weight_reverse (reversed : List Json) :
    (Json.array reversed.reverse).weight scale = itemsWeight scale reversed := by
  rw [weight_array]
  simp [itemsWeight]

theorem Json.weight_ofMap (members : JsonMap) :
    (ofMap members).weight scale = membersWeight scale members.entries :=
  weight_object scale members.entries

theorem BuildState.weight_step {state next : BuildState} {lexeme : Lexeme}
    (read : state.step lexeme = some next) :
    next.weight scale ≤ state.weight scale + lexeme.weight scale := by
  obtain ⟨opened, expected⟩ := state
  cases expected with
  | value =>
      cases lexeme with
      | value json =>
          cases read
          exact weight_deliver scale opened json
      | openArray => exact weight_nest scale read rfl (by simp)
      | openObject => exact weight_nest scale read rfl (by simp)
      | _ => cases read
  | valueOrClose =>
      cases lexeme with
      | value json =>
          cases read
          exact weight_deliver scale opened json
      | openArray => exact weight_nest scale read rfl (by simp)
      | openObject => exact weight_nest scale read rfl (by simp)
      | closeArray =>
          simp only [step] at read
          split at read
          · cases read
            refine weight_close scale ?_ true _
            rw [Json.weight_array]
            exact Nat.zero_le _
          · cases read
      | _ => cases read
  | name =>
      cases lexeme with
      | value json =>
          cases json with
          | string name =>
              simp only [step] at read
              split at read
              · cases read
                exact weight_name scale _ _ name _
              · cases read
          | _ => cases read
      | _ => cases read
  | nameOrClose =>
      cases lexeme with
      | value json =>
          cases json with
          | string name =>
              simp only [step] at read
              split at read
              · cases read
                exact weight_name scale _ _ name _
              · cases read
          | _ => cases read
      | closeObject =>
          simp only [step] at read
          split at read
          · cases read
            exact weight_close scale (Json.weight_ofMap scale _).le false _
          · cases read
      | _ => cases read
  | colon =>
      cases lexeme with
      | colon =>
          cases read
          exact le_rfl
      | _ => cases read
  | commaOrClose =>
      cases lexeme with
      | comma =>
          simp only [step] at read
          split at read
          · cases read
            exact le_rfl
          · cases read
            exact le_rfl
          · cases read
      | closeArray =>
          simp only [step] at read
          split at read
          · cases read
            exact weight_close scale (Json.weight_reverse scale _).le false _
          · cases read
      | closeObject =>
          simp only [step] at read
          split at read
          · cases read
            exact weight_close scale (Json.weight_ofMap scale _).le false _
          · cases read
      | _ => cases read
  | nothing json => cases lexeme <;> cases read

theorem BuildState.weight_run {lexemes : List Lexeme} {state final : BuildState}
    (read : lexemes.foldlM BuildState.step state = some final) :
    final.weight scale ≤ state.weight scale + Lexeme.totalWeight scale lexemes := by
  induction lexemes generalizing state with
  | nil =>
      cases read
      simp
  | cons lexeme rest inductionHypothesis =>
      rw [List.foldlM_cons] at read
      obtain ⟨next, first, later⟩ := Option.bind_eq_some_iff.1 read
      have one := weight_step scale first
      have others := inductionHypothesis later
      rw [Lexeme.totalWeight_cons]
      omega

/-- A value weighs at most as much as the text that it is read from. -/
theorem Json.weight_le_of_ofChars? {text : List Char} {json : Json}
    (read : ofChars? text = some json) : json.weight scale ≤ Text.weight scale text := by
  rw [ofChars?] at read
  obtain ⟨lexemes, scanned, rest⟩ := Option.bind_eq_some_iff.1 read
  obtain ⟨final, run, result⟩ := Option.bind_eq_some_iff.1 rest
  have scannedBound := Lexeme.weight_ofChars scale scanned
  have runBound := BuildState.weight_run scale run
  have start : BuildState.start.weight scale = 0 := rfl
  split at result
  · next whole finished =>
      cases result
      have final : final.weight scale = json.weight scale := by
        rw [BuildState.weight, finished]
      omega
  · cases result

end ChatOps
