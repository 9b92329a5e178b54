import ChatOps.Command.Argument

/-!
# Shapes of tokens

What a token of each shape looks like (`Shape.IsSpelt`), and how tokens whose shapes
are known are sorted into arguments (`Arguments.ofItems_sorted`).
-/

set_option autoImplicit false

namespace ChatOps

/-! ## Items -/

/-- The item that a token makes by itself; a short flag may need the next one. -/
def Shape.item? (token : String) : Shape → Option Item
  | .long key value => some (.flag key ((value.map inferValue).getD (.bool true)))
  | .short _ => none
  | .option key value => some (.option key (inferValue value))
  | .positional => some (.positional (inferValue token))

theorem itemsOf_cons {token : String} {item : Item}
    (alone : (Shape.ofToken token).item? token = some item) (rest : List String) :
    itemsOf (token :: rest) = item :: itemsOf rest := by
  rw [itemsOf]
  cases shape : Shape.ofToken token <;> rw [shape] at alone <;> cases alone <;> rfl

/-- How tokens are taken for items: one by one, except for a short flag in front of a
token that may be its value. -/
inductive ReadAs : List String → List Item → Prop where
  | nil : ReadAs [] []
  | alone {token : String} {rest : List String} {item : Item} {items : List Item}
      (alone : (Shape.ofToken token).item? token = some item) (later : ReadAs rest items) :
      ReadAs (token :: rest) (item :: items)
  | bare {token key : String} {rest : List String} {items : List Item}
      (short : Shape.ofToken token = .short key) (later : ReadAs rest items) :
      ReadAs (token :: rest) (.flag key (.bool true) :: items)
  | valued {token key next : String} {rest : List String} {items : List Item}
      (short : Shape.ofToken token = .short key) (later : ReadAs rest items) :
      ReadAs (token :: next :: rest) (.flag key (inferValue next) :: items)

theorem readAs_itemsOf (tokens : List String) : ReadAs tokens (itemsOf tokens) := by
  induction tokens using itemsOf.induct with
  | case1 => exact .nil
  | case2 token rest key value shape inductionHypothesis =>
      have alone : (Shape.ofToken token).item? token =
          some (.flag key ((value.map inferValue).getD (.bool true))) := by
        rw [shape]
        rfl
      rw [itemsOf_cons alone]
      exact .alone alone inductionHypothesis
  | case3 token key shape =>
      rw [itemsOf, shape]
      exact .bare shape .nil
  | case4 token key shape next rest dashed inductionHypothesis =>
      rw [itemsOf, shape]
      simp only [dashed, if_true]
      exact .bare shape inductionHypothesis
  | case5 token key shape next rest plain inductionHypothesis =>
      rw [itemsOf, shape]
      simp only [plain, Bool.false_eq_true, if_false]
      exact .valued shape inductionHypothesis
  | case6 token rest key value shape inductionHypothesis =>
      have alone : (Shape.ofToken token).item? token =
          some (.option key (inferValue value)) := by
        rw [shape]
        rfl
      rw [itemsOf_cons alone]
      exact .alone alone inductionHypothesis
  | case7 token rest shape inductionHypothesis =>
      have alone : (Shape.ofToken token).item? token =
          some (.positional (inferValue token)) := by
        rw [shape]
        rfl
      rw [itemsOf_cons alone]
      exact .alone alone inductionHypothesis

theorem itemsOf_map_append {Part : Type} (token : Part → String) (item : Part → Item)
    {parts : List Part}
    (alone : ∀ part ∈ parts,
      (Shape.ofToken (token part)).item? (token part) = some (item part))
    (rest : List String) :
    itemsOf (parts.map token ++ rest) = parts.map item ++ itemsOf rest := by
  induction parts with
  | nil => rfl
  | cons part others inductionHypothesis =>
      have later := inductionHypothesis fun other member =>
        alone other (List.mem_cons_of_mem part member)
      rw [List.map_cons, List.cons_append, itemsOf_cons (alone part List.mem_cons_self),
        later, List.map_cons, List.cons_append]

namespace Arguments

theorem foldl_add_positional (values : List Json) (arguments : Arguments) :
    (values.map Item.positional).foldl add arguments =
      { arguments with args := arguments.args ++ values } := by
  induction values generalizing arguments with
  | nil => simp
  | cons value rest inductionHypothesis => simp [inductionHypothesis, add]

theorem foldl_add_flag (flags : List (String × Json)) (arguments : Arguments) :
    (flags.map fun flag => Item.flag flag.1 flag.2).foldl add arguments =
      { arguments with flags := arguments.flags.insertMany flags } := by
  induction flags generalizing arguments with
  | nil => rfl
  | cons flag rest inductionHypothesis =>
      rw [List.map_cons, List.foldl_cons, inductionHypothesis]
      rfl

theorem foldl_add_option (options : List (String × Json)) (arguments : Arguments) :
    (options.map fun option => Item.option option.1 option.2).foldl add arguments =
      { arguments with options := arguments.options.insertMany options } := by
  induction options generalizing arguments with
  | nil => rfl
  | cons option rest inductionHypothesis =>
      rw [List.map_cons, List.foldl_cons, inductionHypothesis]
      rfl

/-- Positional arguments, flags and options in this order end up in their places. -/
theorem ofItems_sorted (values : List Json) (flags options : List (String × Json)) :
    ofItems (values.map Item.positional ++
        (flags.map (fun flag => Item.flag flag.1 flag.2) ++
          options.map fun option => Item.option option.1 option.2)) =
      ⟨values, .ofList flags, .ofList options⟩ := by
  rw [ofItems, List.foldl_append, List.foldl_append, foldl_add_positional,
    foldl_add_flag, foldl_add_option]
  rfl

end Arguments

/-! ## Shapes -/

theorem Shape.ofChars_plain {text : List Char} (plain : text.head? ≠ some '-') :
    Shape.ofChars text = plainShape text := by
  rw [Shape.ofChars]
  · intro rest same
    subst same
    exact plain rfl
  · intro rest same
    subst same
    exact plain rfl

theorem longShape_bare {key : List Char} (some : key ≠ []) (equals : '=' ∉ key) :
    longShape key = .long (String.ofList key) none := by
  have kept : key.isEmpty = false := List.isEmpty_eq_false_iff.2 some
  rw [longShape, Text.cut?_eq_none_iff.2 equals]
  simp [kept]

theorem longShape_valued {key : List Char} (some : key ≠ []) (equals : '=' ∉ key)
    (value : List Char) :
    longShape (key ++ '=' :: value) =
      .long (String.ofList key) (.some (String.ofList value)) := by
  have kept : key.isEmpty = false := List.isEmpty_eq_false_iff.2 some
  rw [longShape, Text.cut?_append equals]
  simp [kept]

theorem equals_notMem_of_isIdentifier {key : List Char}
    (identifier : isIdentifier key = true) : '=' ∉ key := by
  intro member
  rw [isIdentifier, Bool.and_eq_true, List.all_eq_true] at identifier
  have wrong := identifier.2 '=' member
  revert wrong
  decide

theorem plainShape_option {key : List Char} (identifier : isIdentifier key = true)
    (value : List Char) :
    plainShape (key ++ '=' :: value) =
      .option (String.ofList key) (String.ofList value) := by
  rw [plainShape, Text.cut?_append (equals_notMem_of_isIdentifier identifier)]
  simp [identifier]

/-! ## Spellings -/

/-- How a token of a shape is spelt.  The key of a long flag has no equals sign, and
that of an option is an identifier in front of the first one. -/
def Shape.IsSpelt (token : String) : Shape → Prop
  | .long key none =>
      token.toList = '-' :: '-' :: key.toList ∧ key ≠ "" ∧ '=' ∉ key.toList
  | .long key (some value) =>
      token.toList = '-' :: '-' :: (key.toList ++ '=' :: value.toList) ∧ key ≠ "" ∧
        '=' ∉ key.toList
  | .short key => token.toList = '-' :: key.toList ∧ key ≠ "" ∧ key.toList.head? ≠ some '-'
  | .option key value =>
      token.toList = key.toList ++ '=' :: value.toList ∧
        isIdentifier key.toList = true ∧ isDashed key = false
  | .positional => True

theorem ofList_ne_empty {text : List Char} (some : text.isEmpty = false) :
    String.ofList text ≠ "" := by
  intro empty
  have noChars := congrArg String.toList empty
  rw [String.toList_ofList] at noChars
  rw [noChars] at some
  cases some

theorem isSpelt_longShape {token : String} {name : List Char}
    (shape : token.toList = '-' :: '-' :: name) : (longShape name).IsSpelt token := by
  rw [longShape]
  cases cut : Text.cut? '=' name with
  | none =>
      simp only []
      cases empty : name.isEmpty with
      | true => exact trivial
      | false =>
          have equals := Text.cut?_eq_none_iff.1 cut
          exact ⟨by simp [shape], ofList_ne_empty empty, by simpa using equals⟩
  | some halves =>
      obtain ⟨key, value⟩ := halves
      obtain ⟨whole, equals⟩ := Text.cut?_eq_some cut
      simp only []
      cases empty : key.isEmpty with
      | true => exact trivial
      | false =>
          exact ⟨by simp [shape, whole], ofList_ne_empty empty, by simpa using equals⟩

theorem isSpelt_plainShape {token : String} (plain : isDashed token = false) :
    (plainShape token.toList).IsSpelt token := by
  rw [plainShape]
  cases cut : Text.cut? '=' token.toList with
  | none => exact trivial
  | some halves =>
      obtain ⟨key, value⟩ := halves
      obtain ⟨whole, _⟩ := Text.cut?_eq_some cut
      simp only []
      cases identifier : isIdentifier key with
      | false => exact trivial
      | true =>
          refine ⟨by simp [whole], by simpa using identifier, ?_⟩
          rw [isDashed, String.toList_ofList]
          rw [isDashed, whole] at plain
          cases key with
          | nil => rfl
          | cons c rest => simpa using plain

/-- Every token is spelt as its shape says. -/
theorem isSpelt_ofToken (token : String) : (Shape.ofToken token).IsSpelt token := by
  unfold Shape.ofToken Shape.ofChars
  split
  · next name shape => exact isSpelt_longShape shape
  · next name single shape =>
      split
      · exact trivial
      · next short =>
          rw [Bool.or_eq_true, not_or, Bool.not_eq_true] at short
          refine ⟨by simp [shape], ofList_ne_empty short.1, ?_⟩
          rw [String.toList_ofList]
          cases name with
          | nil => simp
          | cons c rest =>
              intro dashed
              simp only [List.head?_cons, Option.some.injEq] at dashed
              subst dashed
              exact single rest rfl
  · next noLong noShort =>
      apply isSpelt_plainShape
      rw [isDashed, beq_eq_false_iff_ne]
      intro dashed
      cases shape : token.toList with
      | nil =>
          rw [shape] at dashed
          cases dashed
      | cons c rest =>
          rw [shape] at dashed
          cases dashed
          exact noShort rest shape

end ChatOps
