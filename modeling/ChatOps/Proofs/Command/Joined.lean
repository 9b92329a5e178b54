import ChatOps.Proofs.Command.Shape
import ChatOps.Proofs.Command.Decimal
import Mathlib.Data.List.Basic

/-!
# Joined lists of tokens

The only token that looks at the one behind it is a short flag.  So two lists may be read
apart and the arguments joined afterwards, as long as no short flag ends the first list in
front of a token that may be its value (`Arguments.ofTokens_append`).  Where one does, the
lists have not the same items when they are joined (`itemsOf_append_iff`).
-/

set_option autoImplicit false

namespace ChatOps

/-! ## Short flags -/

/-- How a short flag looks: a single dash and a text behind it, which do not spell a number. -/
def IsShortFlag (token : String) : Prop :=
  ∃ name : List Char, token.toList = '-' :: name ∧ name ≠ [] ∧ name.head? ≠ some '-' ∧
    ¬ IsDecimal token.toList

theorem Shape.ofChars_dash {name : List Char} (single : name.head? ≠ some '-') :
    Shape.ofChars ('-' :: name) =
      if name.isEmpty || isNumeric ('-' :: name) then .positional
      else .short (String.ofList name) := by
  cases name with
  | nil => rfl
  | cons c rest =>
      rw [Shape.ofChars]
      rintro _ ⟨⟩
      exact single rfl

theorem isShortFlag_iff {token : String} :
    IsShortFlag token ↔ ∃ key, Shape.ofToken token = .short key := by
  constructor
  · rintro ⟨name, spelt, given, single, noNumber⟩
    have nonempty : name.isEmpty = false := List.isEmpty_eq_false_iff.2 given
    have notNumeric : ¬ isNumeric ('-' :: name) = true := by
      rwa [isNumeric_iff, ← spelt]
    refine ⟨String.ofList name, ?_⟩
    rw [Shape.ofToken, spelt, Shape.ofChars_dash single, nonempty, Bool.false_or,
      if_neg notNumeric]
  · rintro ⟨key, short⟩
    have isSpelt := isSpelt_ofToken token
    rw [short] at isSpelt
    obtain ⟨spelt, _, single⟩ := isSpelt
    rw [Shape.ofToken, spelt, Shape.ofChars_dash single] at short
    split at short
    · cases short
    · next neither =>
        rw [Bool.or_eq_true, not_or, List.isEmpty_iff, isNumeric_iff] at neither
        exact ⟨key.toList, spelt, neither.1, single, spelt ▸ neither.2⟩

/-! ## Items -/

theorem itemsOf_bare {token key next : String} (short : Shape.ofToken token = .short key)
    (dashed : isDashed next = true) (rest : List String) :
    itemsOf (token :: next :: rest) = .flag key (.bool true) :: itemsOf (next :: rest) := by
  rw [itemsOf, short]
  simp only [dashed, if_true]

theorem itemsOf_valued {token key next : String} (short : Shape.ofToken token = .short key)
    (plain : isDashed next = false) (rest : List String) :
    itemsOf (token :: next :: rest) = .flag key (inferValue next) :: itemsOf rest := by
  rw [itemsOf, short]
  simp only [plain, Bool.false_eq_true, if_false]

/-- No short flag ends the first list in front of a token that may be its value. -/
def Apart (xs ys : List String) : Prop :=
  (∀ last ∈ xs.getLast?, ¬ IsShortFlag last) ∨ ∀ first ∈ ys.head?, isDashed first = true

theorem Apart.tail {token : String} {xs ys : List String} (apart : Apart (token :: xs) ys) :
    Apart xs ys :=
  apart.imp_left fun plain last member => plain last (List.mem_getLast?_cons member)

theorem Apart.dashed {token key : String} {ys : List String} (apart : Apart [token] ys)
    (short : Shape.ofToken token = .short key) : ∀ first ∈ ys.head?, isDashed first = true :=
  apart.resolve_left fun plain => plain token rfl (isShortFlag_iff.2 ⟨key, short⟩)

theorem itemsOf_append {xs ys : List String} (apart : Apart xs ys) :
    itemsOf (xs ++ ys) = itemsOf xs ++ itemsOf ys := by
  -- A short flag in front of another token of `xs` finds its value, or none, within `xs`.
  induction xs using itemsOf.induct with
  | case1 => rw [List.nil_append, itemsOf, List.nil_append]
  | case2 token rest key value shape inductionHypothesis =>
      rw [List.cons_append, itemsOf, itemsOf, shape]
      simp only [inductionHypothesis apart.tail, List.cons_append]
  | case3 token key shape =>
      have alone : itemsOf [token] = [.flag key (.bool true)] := by rw [itemsOf, shape]
      cases ys with
      | nil => rw [List.append_nil, itemsOf, List.append_nil]
      | cons first later =>
          have dashed := apart.dashed shape first rfl
          rw [List.cons_append, List.nil_append, itemsOf_bare shape dashed, alone,
            List.cons_append, List.nil_append]
  | case4 token key shape next rest dashed inductionHypothesis =>
      have later := inductionHypothesis apart.tail
      rw [List.cons_append] at later
      rw [List.cons_append, List.cons_append, itemsOf_bare shape dashed,
        itemsOf_bare shape dashed, later, List.cons_append]
  | case5 token key shape next rest plain inductionHypothesis =>
      have undashed := Bool.eq_false_iff.2 plain
      rw [List.cons_append, List.cons_append, itemsOf_valued shape undashed,
        itemsOf_valued shape undashed, inductionHypothesis apart.tail.tail, List.cons_append]
  | case6 token rest key value shape inductionHypothesis =>
      rw [List.cons_append, itemsOf, itemsOf, shape]
      simp only [inductionHypothesis apart.tail, List.cons_append]
  | case7 token rest shape inductionHypothesis =>
      rw [List.cons_append, itemsOf, itemsOf, shape]
      simp only [inductionHypothesis apart.tail, List.cons_append]

theorem length_itemsOf_cons {token : String} (long : ¬ IsShortFlag token) (rest : List String) :
    (itemsOf (token :: rest)).length = (itemsOf rest).length + 1 := by
  cases shape : Shape.ofToken token with
  | short key => exact absurd (isShortFlag_iff.2 ⟨key, shape⟩) long
  | long key value => rw [itemsOf, shape, List.length_cons]
  | option key value => rw [itemsOf, shape, List.length_cons]
  | positional => rw [itemsOf, shape, List.length_cons]

theorem IsShortFlag.isDashed {token : String} (short : IsShortFlag token) :
    isDashed token = true := by
  obtain ⟨name, spelt, _⟩ := short
  rw [ChatOps.isDashed, spelt]
  rfl

/-- Lists that are not apart make one item less when they are joined: the first token of the
second is the value of the flag in front of it. -/
theorem itemsOf_append_iff {xs ys : List String} :
    itemsOf (xs ++ ys) = itemsOf xs ++ itemsOf ys ↔ Apart xs ys := by
  refine ⟨fun same => ?_, itemsOf_append⟩
  by_contra together
  rw [Apart, not_or] at together
  push Not at together
  obtain ⟨⟨last, ends, short⟩, first, starts, undashed⟩ := together
  obtain ⟨front, rfl⟩ := List.getLast?_eq_some_iff.1 ends
  obtain ⟨later, rfl⟩ := List.head?_eq_some_iff.1 starts
  obtain ⟨key, shape⟩ := isShortFlag_iff.1 short
  have behind (rest : List String) : Apart front (last :: rest) :=
    .inr fun token member => by
      cases member
      exact short.isDashed
  have firstLong : ¬ IsShortFlag first := fun firstShort => undashed firstShort.isDashed
  have joined : (itemsOf (front ++ [last] ++ first :: later)).length =
      (itemsOf front).length + ((itemsOf later).length + 1) := by
    rw [List.append_assoc, List.singleton_append, itemsOf_append (behind _),
      itemsOf_valued shape (Bool.eq_false_iff.2 undashed), List.length_append, List.length_cons]
  have separate : (itemsOf (front ++ [last])).length = (itemsOf front).length + 1 := by
    rw [itemsOf_append (behind []), List.length_append, itemsOf, shape, List.length_singleton]
  rw [same, List.length_append, separate, length_itemsOf_cons firstLong] at joined
  omega

/-! ## Arguments -/

namespace Arguments

/-- Arguments that hold those of a first list and then those of a second, whose flags and
options override those of the first with the same keys. -/
structure Joins (first second both : Arguments) : Prop where
  args : both.args = first.args ++ second.args
  flags (key : String) :
    both.flags.get? key = (second.flags.get? key).or (first.flags.get? key)
  options (key : String) :
    both.options.get? key = (second.options.get? key).or (first.options.get? key)

namespace Joins

theorem none (first : Arguments) : Joins first .none first where
  args := (List.append_nil first.args).symm
  flags _ := rfl
  options _ := rfl

theorem add {first second both : Arguments} (joins : Joins first second both) (item : Item) :
    Joins first (second.add item) (both.add item) := by
  -- A key that the item sets is the second's in both; no other key changes.
  cases item with
  | positional value =>
      refine ⟨?_, joins.flags, joins.options⟩
      simp only [Arguments.add, joins.args, List.append_assoc]
  | flag name value =>
      refine ⟨joins.args, fun key => ?_, joins.options⟩
      simp only [Arguments.add, SortedMap.get?_insert, joins.flags key]
      split <;> rfl
  | option name value =>
      refine ⟨joins.args, joins.flags, fun key => ?_⟩
      simp only [Arguments.add, SortedMap.get?_insert, joins.options key]
      split <;> rfl

theorem foldl_add {first second both : Arguments} (joins : Joins first second both)
    (items : List Item) :
    Joins first (items.foldl Arguments.add second) (items.foldl Arguments.add both) := by
  induction items generalizing second both with
  | nil => exact joins
  | cons item rest inductionHypothesis => exact inductionHypothesis (joins.add item)

end Joins

theorem joins_ofItems (xs ys : List Item) :
    Joins (ofItems xs) (ofItems ys) (ofItems (xs ++ ys)) := by
  have appended : ofItems (xs ++ ys) = ys.foldl add (ofItems xs) := List.foldl_append
  rw [appended]
  exact (Joins.none (ofItems xs)).foldl_add ys

/-- Reading one list of tokens behind another joins what they give when read by themselves. -/
theorem ofTokens_append {xs ys : List String} (apart : Apart xs ys) :
    Joins (ofTokens xs) (ofTokens ys) (ofTokens (xs ++ ys)) := by
  rw [ofTokens, ofTokens, ofTokens, itemsOf_append apart]
  exact joins_ofItems (itemsOf xs) (itemsOf ys)

/-- A short flag at the end of the first list is no obstacle in front of another flag. -/
theorem ofTokens_append_flags :
    Apart ["x", "-m", "fix", "k=1", "-v"] ["--v=2", "k=3", "y"] ∧
      Joins (ofTokens ["x", "-m", "fix", "k=1", "-v"]) (ofTokens ["--v=2", "k=3", "y"])
        (ofTokens ["x", "-m", "fix", "k=1", "-v", "--v=2", "k=3", "y"]) := by
  have apart : Apart ["x", "-m", "fix", "k=1", "-v"] ["--v=2", "k=3", "y"] := by
    refine .inr fun first member => ?_
    cases member
    rfl
  exact ⟨apart, ofTokens_append apart⟩

end Arguments

end ChatOps
