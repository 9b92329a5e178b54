import ChatOps.Proofs.Command.Faithful
import Mathlib.Data.List.TakeDrop

/-!
# Texts that are read as themselves

A token without a dash is taken for its own text unless it looks like something else:
a truth value, a number, an object or an array (`inferValue_eq_string_iff`), or an option
because an identifier stands before an equals sign (`ofToken_of_keyed`).  A line of such
tokens and of flags is read as just these texts and flags, and otherwise it is not
(`Arguments.ofTokens_eq_iff`).
-/

set_option autoImplicit false

namespace ChatOps

/-! ## Literals -/

/-- Whether a text looks like nothing but text. -/
structure IsLiteral (raw : String) : Prop where
  notTrue : raw ≠ "true"
  notFalse : raw ≠ "false"
  notNumber : (PlainNumber.ofChars? raw.toList).bind PlainNumber.toNumeral? = none
  notCompound : isBracketed raw.toList = true → Json.ofChars? raw.toList = none

/-- The value of a text is the text itself just if it looks like nothing else. -/
theorem inferValue_eq_string_iff {raw : String} :
    inferValue raw = .string raw ↔ IsLiteral raw := by
  constructor
  · intro kept
    rw [inferValue] at kept
    split at kept
    · cases kept
    · next notTrue =>
        split at kept
        · cases kept
        · next notFalse =>
            split at kept
            · cases kept
            · next notNumber =>
                refine ⟨notTrue, notFalse, notNumber, fun bracketed => ?_⟩
                rw [if_pos bracketed] at kept
                cases read : Json.ofChars? raw.toList with
                | none => rfl
                | some json =>
                    -- What brackets enclose is never read as a string.
                    rw [read, Option.getD_some] at kept
                    obtain ⟨c, rest, bracket, opens⟩ := isBracketed_head bracketed
                    rw [opens, kept] at read
                    exact absurd read (Json.ofChars?_bracket_ne_string bracket raw)
  · rintro ⟨notTrue, notFalse, notNumber, notCompound⟩
    rw [inferValue, if_neg notTrue, if_neg notFalse]
    simp only [notNumber]
    split
    · next bracketed =>
        rw [notCompound bracketed]
        rfl
    · rfl

theorem reread_string {text : String} (literal : IsLiteral text) :
    reread (.string text) = .string text :=
  inferValue_eq_string_iff.2 literal

instance (raw : String) : Decidable (IsLiteral raw) :=
  decidable_of_iff
    (raw ≠ "true" ∧ raw ≠ "false" ∧
      (PlainNumber.ofChars? raw.toList).bind PlainNumber.toNumeral? = none ∧
      (isBracketed raw.toList = true → (Json.ofChars? raw.toList).isNone = true))
    ⟨fun ⟨notTrue, notFalse, notNumber, notCompound⟩ =>
      ⟨notTrue, notFalse, notNumber,
        fun bracketed => Option.isNone_iff_eq_none.1 (notCompound bracketed)⟩,
    fun ⟨notTrue, notFalse, notNumber, notCompound⟩ =>
      ⟨notTrue, notFalse, notNumber,
        fun bracketed => Option.isNone_iff_eq_none.2 (notCompound bracketed)⟩⟩

theorem PlainNumber.ofChars?_eq_none {c : Char} (dash : c ≠ '-') (digit : c.isDigit = false)
    (rest : List Char) : ofChars? (c :: rest) = none := by
  unfold ofChars?
  split
  next negative unsigned sign =>
    split at sign
    · next shape =>
        cases shape
        exact absurd rfl dash
    · cases sign
      simp [spanDigits, List.span_eq_takeWhile_dropWhile, digit]

theorem isDigit_of_isAlpha {c : Char} (letter : c.isAlpha = true) : c.isDigit = false := by
  have written : (c.isUpper || c.isLower) = true := letter
  have low : 65 ≤ c.toNat := by
    rcases Bool.or_eq_true_iff.1 written with capital | small
    · have bounds : c.val ≥ 'A'.val ∧ c.val ≤ 'Z'.val := of_decide_eq_true capital
      exact UInt32.le_iff_toNat_le.1 bounds.1
    · have bounds := (Bool.and_eq_true _ _).mp small
      exact le_trans (by decide) (UInt32.le_iff_toNat_le.1 (of_decide_eq_true bounds.1))
  rw [Bool.eq_false_iff]
  intro digit
  have bounds := (Bool.and_eq_true _ _).mp digit
  have high : c.toNat ≤ 57 := UInt32.le_iff_toNat_le.1 (of_decide_eq_true bounds.2)
  omega

theorem ne_dash_of_isAlpha {c : Char} (letter : c.isAlpha = true) : c ≠ '-' := by
  rintro rfl
  cases letter

theorem isDashed_of_letter {raw : String} {c : Char} {rest : List Char}
    (shape : raw.toList = c :: rest) (letter : c.isAlpha = true) : isDashed raw = false := by
  rw [isDashed, shape, List.head?_cons, beq_eq_false_iff_ne]
  exact fun same => ne_dash_of_isAlpha letter (Option.some.inj same)

theorem isLiteral_of_letter {raw : String} {c : Char} {rest : List Char}
    (shape : raw.toList = c :: rest) (letter : c.isAlpha = true) (notTrue : raw ≠ "true")
    (notFalse : raw ≠ "false") : IsLiteral raw where
  notTrue := notTrue
  notFalse := notFalse
  notNumber := by
    have noNumber := PlainNumber.ofChars?_eq_none (ne_dash_of_isAlpha letter)
      (isDigit_of_isAlpha letter) rest
    rw [shape, noNumber]
    rfl
  notCompound := by
    intro bracketed
    obtain ⟨_, _, bracket, opens⟩ := isBracketed_head bracketed
    rw [shape] at opens
    cases opens
    rcases bracket with rfl | rfl <;> cases letter

theorem isAlpha_of_isUpper {c : Char} (capital : c.isUpper = true) : c.isAlpha = true := by
  have written : (c.isUpper || c.isLower) = true := by
    rw [capital, Bool.true_or]
  exact written

theorem isLiteral_of_capital {raw : String} {c : Char} {rest : List Char}
    (shape : raw.toList = c :: rest) (capital : c.isUpper = true) : IsLiteral raw := by
  apply isLiteral_of_letter shape (isAlpha_of_isUpper capital)
  · rintro rfl
    cases shape
    cases capital
  · rintro rfl
    cases shape
    cases capital

/-! ## Tokens without a dash -/

/-- Whether an identifier stands before an equals sign. -/
def HasKey (token : String) : Prop :=
  ∃ key value, token.toList = key ++ '=' :: value ∧ isIdentifier key = true

theorem ofToken_of_keyed {token : String} (plain : isDashed token = false)
    (keyed : HasKey token) : ∃ key value, Shape.ofToken token = .option key value := by
  obtain ⟨key, value, whole, identifier⟩ := keyed
  rw [isDashed, beq_eq_false_iff_ne] at plain
  rw [Shape.ofToken, Shape.ofChars_plain plain, whole, plainShape_option identifier]
  exact ⟨_, _, rfl⟩

theorem ofToken_of_keyless {token : String} (plain : isDashed token = false)
    (keyless : ¬HasKey token) : Shape.ofToken token = .positional := by
  rw [isDashed, beq_eq_false_iff_ne] at plain
  rw [Shape.ofToken, Shape.ofChars_plain plain, plainShape]
  cases cut : Text.cut? '=' token.toList with
  | none => rfl
  | some halves =>
      obtain ⟨key, value⟩ := halves
      have whole := (Text.cut?_eq_some cut).1
      cases identifier : isIdentifier key with
      | false => simp [identifier]
      | true => exact absurd ⟨key, value, whole, identifier⟩ keyless

theorem not_hasKey_of_equals {token : String} (equals : '=' ∉ token.toList) :
    ¬HasKey token := by
  rintro ⟨key, value, whole, _⟩
  rw [whole] at equals
  simp at equals

/-- A slash in front of every equals sign is in no identifier. -/
theorem not_hasKey_of_slash {token : String} {before rest : List Char}
    (shape : token.toList = before ++ '/' :: rest) (equals : '=' ∉ before) :
    ¬HasKey token := by
  rintro ⟨key, value, whole, identifier⟩
  rw [isIdentifier, Bool.and_eq_true, List.all_eq_true] at identifier
  rw [shape, List.append_eq_append_iff] at whole
  -- Either the key reaches past the slash, or its equals sign stands before the slash.
  rcases whole with ⟨more, longer, behind⟩ | ⟨more, longer, behind⟩
  · cases more with
    | nil => cases behind
    | cons c others =>
        cases behind
        have slash : '/' ∈ key := by simp [longer]
        exact absurd (identifier.2 '/' slash) (by decide)
  · cases more with
    | nil => cases behind
    | cons c others =>
        cases behind
        exact equals (by simp [longer])

/-- Whether a token without a dash is read as its own text. -/
structure IsVerbatim (token : String) : Prop where
  literal : IsLiteral token
  keyless : ¬HasKey token

theorem item?_of_isVerbatim {token : String} (plain : isDashed token = false)
    (verbatim : IsVerbatim token) :
    (Shape.ofToken token).item? token = some (.positional (.string token)) := by
  rw [ofToken_of_keyless plain verbatim.keyless, Shape.item?,
    inferValue_eq_string_iff.2 verbatim.literal]

/-! ## Lines of texts and flags -/

namespace Arguments

/-- Texts as positional arguments, with flags and without options. -/
def ofTexts (texts : List String) (flags : List (String × Json)) : Arguments :=
  ⟨texts.map Json.string, .ofList flags, .empty⟩

theorem args_ofItems_option (values : List Json) (key : String) (value : Json)
    (flags : List (String × Json)) :
    (ofItems (values.map Item.positional ++
      .option key value :: flags.map fun flag => Item.flag flag.1 flag.2)).args = values := by
  rw [ofItems, List.foldl_append, List.foldl_cons, foldl_add_positional, foldl_add_flag]
  rfl

/-- Whether a flag that is written by its key is read with its value. -/
structure IsKeptFlag (flag : String × Json) : Prop where
  nonempty : flag.1 ≠ ""
  equals : '=' ∉ flag.1.toList
  value : reread flag.2 = flag.2

theorem itemsOf_flagWords {flags : List (String × Json)}
    (kept : ∀ flag ∈ flags, IsKeptFlag flag) :
    itemsOf (flags.map fun flag => (flagWord flag).token) =
      flags.map fun flag => .flag flag.1 flag.2 := by
  have alone : ∀ flag ∈ flags,
      (Shape.ofToken (flagWord flag).token).item? (flagWord flag).token =
        some (.flag flag.1 flag.2) := by
    intro flag member
    have keptFlag := kept flag member
    rw [item?_flagWord keptFlag.nonempty keptFlag.equals, keptFlag.value]
  have read := itemsOf_map_append (fun flag => (flagWord flag).token)
    (fun flag => .flag flag.1 flag.2) alone []
  simpa [itemsOf] using read

theorem ofTokens_flagWords {flags : List (String × Json)}
    (kept : ∀ flag ∈ flags, IsKeptFlag flag) :
    ofTokens (flags.map fun flag => (flagWord flag).token) = ofTexts [] flags := by
  have sorted := ofItems_sorted [] flags []
  simp only [List.map_nil, List.append_nil, List.nil_append] at sorted
  rw [ofTokens, itemsOf_flagWords kept, sorted]
  rfl

/-- Behind texts that are read as themselves, one more text is read as itself just if it
looks like nothing else. -/
theorem ofTokens_eq_iff {before : List String} {text : String}
    {flags : List (String × Json)}
    (verbatim : ∀ token ∈ before, isDashed token = false ∧ IsVerbatim token)
    (plain : isDashed text = false) (kept : ∀ flag ∈ flags, IsKeptFlag flag) :
    ofTokens (before ++ text :: flags.map fun flag => (flagWord flag).token) =
        ofTexts (before ++ [text]) flags ↔
      IsVerbatim text := by
  have flagItems := itemsOf_flagWords kept
  have beforeItems := itemsOf_map_append id (fun token => Item.positional (.string token))
    (fun token member =>
      item?_of_isVerbatim (verbatim token member).1 (verbatim token member).2)
    (text :: flags.map fun flag => (flagWord flag).token)
  rw [List.map_id] at beforeItems
  have placed : before.map (fun token => Item.positional (.string token)) =
      (before.map Json.string).map Item.positional := by simp
  rw [ofTokens, beforeItems, placed]
  by_cases keyed : HasKey text
  · obtain ⟨key, value, shape⟩ := ofToken_of_keyed plain keyed
    have item : (Shape.ofToken text).item? text = some (.option key (inferValue value)) := by
      rw [shape]
      rfl
    rw [itemsOf_cons item, flagItems]
    constructor
    -- An option is no argument, so there is one too few.
    · intro same
      have fewer := congrArg Arguments.args same
      rw [args_ofItems_option] at fewer
      have lengths := congrArg List.length fewer
      simp [ofTexts] at lengths
    · exact fun verbatim => absurd keyed verbatim.keyless
  · have item : (Shape.ofToken text).item? text = some (.positional (inferValue text)) := by
      rw [ofToken_of_keyless plain keyed]
      rfl
    have sorted := ofItems_sorted (before.map Json.string ++ [inferValue text]) flags []
    rw [itemsOf_cons item, flagItems]
    simp only [List.map_append, List.map_cons, List.map_nil, List.append_nil,
      List.append_assoc, List.cons_append, List.nil_append] at sorted
    rw [sorted]
    constructor
    · intro same
      have args := congrArg Arguments.args same
      simp only [ofTexts, List.map_append, List.map_cons, List.map_nil,
        List.append_cancel_left_eq, List.cons.injEq, and_true] at args
      exact ⟨inferValue_eq_string_iff.1 args, keyed⟩
    · intro verbatim
      rw [inferValue_eq_string_iff.2 verbatim.literal]
      simp [ofTexts]
      rfl

end Arguments

end ChatOps
