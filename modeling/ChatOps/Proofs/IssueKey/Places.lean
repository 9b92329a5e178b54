import ChatOps.Proofs.IssueKey.Form
import Mathlib.Data.List.TakeWhile

/-!
# Places of issue keys

A key may stand in a commit message in several places.  A place is found wherever it occurs
first, and what stands there is a key by itself, with no word character next to it.  So the
messages yield a key if and only if such a key stands in one of them, and it is one from the
clearest place that occurs in any message, in the first message where it occurs
(`clearest_ofCommits?`).
-/

set_option autoImplicit false

namespace ChatOps.IssueKey

/-! ## Where keys stand -/

/-- Whether a text has a key with no word character before or behind it. -/
def StandsIn (text key : List Char) : Prop :=
  ∃ before behind, text = before ++ key ++ behind ∧ IsKey key ∧
    isEdge before.getLast? = true ∧ isEdge behind.head? = true

namespace Place

/-- How clear a place is; a smaller number is clearer. -/
def rank : Place → Nat
  | .bracketed => 0
  | .scope => 1
  | .parenthesized => 2
  | .leading => 3
  | .hash => 4
  | .bare => 5

/-- What stands ahead of a key in a place, behind what is passed over. -/
def Opens (passed opening : List Char) : Place → Prop
  | .bracketed => opening = ['[']
  | .scope => passed = [] ∧ ∃ word, word ≠ [] ∧ (∀ c ∈ word, Text.isWordChar c = true) ∧
      opening = word ++ ['(']
  | .parenthesized => opening = ['(']
  | .leading => passed = [] ∧ opening = []
  | .hash => opening = ['#']
  | .bare => opening = [] ∧ isEdge passed.getLast? = true

/-- What stands behind a key in a place. -/
def Closes (behind : List Char) : Place → Prop
  | .bracketed => behind.head? = some ']'
  | .scope => ∃ rest, behind = ')' :: ':' :: rest ∨ behind = ')' :: '!' :: ':' :: rest
  | .parenthesized => behind.head? = some ')'
  | .leading => behind.head? = some ':'
  | .hash => isEdge behind.head? = true
  | .bare => isEdge behind.head? = true

/-- Whether the rest of a text begins with a place in which a key stands. -/
def Begins (place : Place) (passed rest key : List Char) : Prop :=
  ∃ opening behind, rest = opening ++ (key ++ behind) ∧
    place.Opens passed opening ∧ IsKey key ∧ place.Closes behind

/-- Whether a key stands in a place right behind what is passed over. -/
def Matches (place : Place) (text passed key : List Char) : Prop :=
  ∃ rest, text = passed ++ rest ∧ place.Begins passed rest key

/-- Whether a place occurs in a text. -/
def Occurs (place : Place) (text : List Char) : Prop :=
  ∃ passed key, place.Matches text passed key

/-- Whether a key is the first that a text has in a place. -/
def HasFirst (place : Place) (text key : List Char) : Prop :=
  ∃ passed, place.Matches text passed key ∧
    ∀ earlier other, place.Matches text earlier other → passed.length ≤ earlier.length

end Place

/-! ## Edges -/

theorem isEdge_some {c : Char} : isEdge (some c) = true ↔ Text.isWordChar c = false := by
  simp [isEdge]

theorem isDecimalDigit_of_isEdge {behind : List Char} (edge : isEdge behind.head? = true) :
    ∀ c ∈ behind.head?, Text.isDecimalDigit c = false := by
  intro c isHead
  rw [Option.mem_def.1 isHead, isEdge_some] at edge
  rw [Bool.eq_false_iff]
  intro digit
  simp [Text.isWordChar, digit] at edge

theorem isEdge_mark {c : Char} (mark : c ∈ ['[', ']', '(', ')', '#', ':']) :
    isEdge (some c) = true := by
  have all : (['[', ']', '(', ')', '#', ':'].all fun mark => isEdge (some mark)) = true := by
    decide +kernel
  exact List.all_eq_true.1 all c mark

theorem isDecimalDigit_mark {c : Char} (mark : c ∈ ['[', ']', '(', ')', '#', ':']) :
    Text.isDecimalDigit c = false := by
  have edge : isEdge [c].head? = true := isEdge_mark mark
  exact isDecimalDigit_of_isEdge edge c rfl

theorem Place.isEdge_of_opens {place : Place} {passed opening : List Char}
    (opens : place.Opens passed opening) : isEdge (passed ++ opening).getLast? = true := by
  cases place with
  | bracketed =>
      rw [show opening = ['['] from opens, List.getLast?_concat]
      exact isEdge_mark (by simp)
  | scope =>
      obtain ⟨_, word, _, _, rfl⟩ := opens
      rw [← List.append_assoc, List.getLast?_concat]
      exact isEdge_mark (by simp)
  | parenthesized =>
      rw [show opening = ['('] from opens, List.getLast?_concat]
      exact isEdge_mark (by simp)
  | leading =>
      obtain ⟨rfl, rfl⟩ := opens
      rfl
  | hash =>
      rw [show opening = ['#'] from opens, List.getLast?_concat]
      exact isEdge_mark (by simp)
  | bare =>
      obtain ⟨rfl, edge⟩ := opens
      rw [List.append_nil]
      exact edge

theorem Place.isEdge_of_closes {place : Place} {behind : List Char}
    (closes : place.Closes behind) : isEdge behind.head? = true := by
  cases place with
  | bracketed =>
      rw [show behind.head? = some ']' from closes]
      exact isEdge_mark (by simp)
  | scope =>
      obtain ⟨rest, rfl | rfl⟩ := closes
      · exact isEdge_mark (by simp)
      · exact isEdge_mark (by simp)
  | parenthesized =>
      rw [show behind.head? = some ')' from closes]
      exact isEdge_mark (by simp)
  | leading =>
      rw [show behind.head? = some ':' from closes]
      exact isEdge_mark (by simp)
  | hash => exact closes
  | bare => exact closes

/-- In whatever place a key stands, it stands there by itself. -/
theorem Place.Matches.standsIn {place : Place} {text passed key : List Char}
    (found : place.Matches text passed key) : StandsIn text key := by
  obtain ⟨_, rfl, opening, behind, rfl, opens, isKey, closes⟩ := found
  exact ⟨passed ++ opening, behind, by simp, isKey, place.isEdge_of_opens opens,
    place.isEdge_of_closes closes⟩

theorem StandsIn.occurs_bare {text key : List Char} (stands : StandsIn text key) :
    Place.bare.Occurs text := by
  obtain ⟨before, behind, rfl, isKey, edgeBefore, edgeBehind⟩ := stands
  exact ⟨before, key, key ++ behind, by simp, [], behind, rfl, ⟨rfl, edgeBefore⟩, isKey,
    edgeBehind⟩

/-! ## What is found at the start of a text -/

theorem takeWhile_append_cons {α : Type} {keep : α → Bool} {front : List α} {stop : α}
    (kept : ∀ item ∈ front, keep item = true) (stops : keep stop = false) (back : List α) :
    (front ++ stop :: back).takeWhile keep = front ∧
      (front ++ stop :: back).dropWhile keep = stop :: back := by
  rw [List.takeWhile_append_of_pos kept, List.dropWhile_append_of_pos kept,
    List.takeWhile_cons_of_neg (by simp [stops]), List.dropWhile_cons_of_neg (by simp [stops]),
    List.append_nil]
  exact ⟨rfl, rfl⟩

theorem takeWhile_append_of_head {α : Type} {keep : α → Bool} {front back : List α}
    (kept : ∀ item ∈ front, keep item = true) (stops : ∀ stop ∈ back.head?, keep stop = false) :
    (front ++ back).takeWhile keep = front ∧ (front ++ back).dropWhile keep = back := by
  cases back with
  | nil =>
      rw [List.append_nil, List.takeWhile_eq_self_iff.2 kept, List.dropWhile_eq_nil_iff.2 kept]
      exact ⟨rfl, rfl⟩
  | cons stop rest => exact takeWhile_append_cons kept (stops stop rfl) rest

theorem atStart?_append {key behind : List Char} (isKey : IsKey key)
    (ends : ∀ c ∈ behind.head?, Text.isDecimalDigit c = false) :
    atStart? (key ++ behind) = some (key, behind) := by
  obtain ⟨capital, longer, keyChars, numbered, digits⟩ := isKey
  rename_i first project number
  have hyphen : isKeyChar '-' = false := by decide
  have allKeyChars : ∀ c ∈ first :: project, isKeyChar c = true := by
    intro c member
    rcases List.mem_cons.1 member with rfl | isLater
    · simp [isKeyChar, capital]
    · exact keyChars c isLater
  have projectPart := takeWhile_append_cons allKeyChars hyphen (number ++ behind)
  have numberPart := takeWhile_append_of_head digits ends
  have whole : first :: (project ++ '-' :: number) ++ behind =
      (first :: project) ++ '-' :: (number ++ behind) := by simp
  rw [whole, atStart?]
  simp only [projectPart.1, projectPart.2, numberPart.1, numberPart.2]
  simp [capital, numbered, longer]

theorem head_dropWhile {α : Type} {keep : α → Bool} (items : List α) :
    ∀ stop ∈ (items.dropWhile keep).head?, keep stop = false := by
  intro stop isHead
  have fails := List.head?_dropWhile_not keep items
  rw [Option.mem_def.1 isHead] at fails
  simpa using fails

theorem atStart?_eq_some_iff {text key behind : List Char} :
    atStart? text = some (key, behind) ↔
      text = key ++ behind ∧ IsKey key ∧ ∀ c ∈ behind.head?, Text.isDecimalDigit c = false := by
  constructor
  · intro found
    obtain ⟨isKey, whole⟩ := isKey_of_atStart? found
    refine ⟨whole, isKey, ?_⟩
    unfold atStart? at found
    simp only [] at found
    split at found
    · split at found
      · cases found
        exact head_dropWhile _
      · cases found
    · cases found
  · rintro ⟨rfl, isKey, ends⟩
    exact atStart?_append isKey ends

theorem standing_eq_some_iff {text key : List Char} :
    (match atStart? text with
      | some (key, behind) => if isEdge behind.head? then some key else none
      | none => none) = some key ↔
      ∃ behind, text = key ++ behind ∧ IsKey key ∧ isEdge behind.head? = true := by
  constructor
  · intro found
    split at found
    · next behind inner =>
        split at found
        · next edge =>
            cases found
            obtain ⟨whole, isKey, _⟩ := atStart?_eq_some_iff.1 inner
            exact ⟨behind, whole, isKey, edge⟩
        · cases found
    · cases found
  · rintro ⟨behind, rfl, isKey, edge⟩
    rw [atStart?_append isKey (isDecimalDigit_of_isEdge edge)]
    exact if_pos edge

theorem enclosed?_eq_some_iff {opening closing : Char} {text key behind : List Char}
    (ends : Text.isDecimalDigit closing = false) :
    Place.enclosed? opening closing text = some (key, behind) ↔
      text = opening :: (key ++ closing :: behind) ∧ IsKey key := by
  constructor
  · intro found
    unfold Place.enclosed? at found
    split at found
    · split at found
      · next opens =>
          split at found
          · next inner =>
              split at found
              · next closes =>
                  cases found
                  obtain ⟨rfl, isKey, _⟩ := atStart?_eq_some_iff.1 inner
                  rw [opens, closes]
                  exact ⟨rfl, isKey⟩
              · cases found
          · cases found
      · cases found
    · cases found
  · rintro ⟨rfl, isKey⟩
    have inner : atStart? (key ++ closing :: behind) = some (key, closing :: behind) :=
      atStart?_append isKey (by simpa using ends)
    simp [Place.enclosed?, inner]

theorem enclosedKey_eq_some_iff {opening closing : Char} {text key : List Char}
    (ends : Text.isDecimalDigit closing = false) :
    (Place.enclosed? opening closing text).map Prod.fst = some key ↔
      ∃ front behind, text = front ++ (key ++ behind) ∧
        front = [opening] ∧ IsKey key ∧ behind.head? = some closing := by
  rw [Option.map_eq_some_iff]
  constructor
  · rintro ⟨⟨key, back⟩, inner, rfl⟩
    obtain ⟨rfl, isKey⟩ := (enclosed?_eq_some_iff ends).1 inner
    exact ⟨[opening], closing :: back, rfl, rfl, isKey, rfl⟩
  · rintro ⟨_, behind, rfl, rfl, isKey, closes⟩
    obtain ⟨back, rfl⟩ := List.head?_eq_some_iff.1 closes
    exact ⟨(key, back), (enclosed?_eq_some_iff ends).2 ⟨rfl, isKey⟩, rfl⟩

theorem endsScope_iff {text : List Char} :
    Place.endsScope text = true ↔ ∃ rest, text = ':' :: rest ∨ text = '!' :: ':' :: rest := by
  unfold Place.endsScope
  split
  · simp
  · simp
  · next notColon notMark =>
      simp only [Bool.false_eq_true, false_iff, not_exists, not_or]
      exact fun rest => ⟨notColon rest, notMark rest⟩

theorem getLast?_isNone {α : Type} {items : List α} :
    items.getLast?.isNone = true ↔ items = [] := by
  rw [Option.isNone_iff_eq_none, List.getLast?_eq_none_iff]

theorem leading_keyHere?_eq_some_iff {passed text key : List Char} :
    Place.leading.keyHere? passed.getLast? text = some key ↔
      Place.leading.Begins passed text key := by
  have notDigit : Text.isDecimalDigit ':' = false := isDecimalDigit_mark (by simp)
  constructor
  · intro found
    simp only [Place.keyHere?] at found
    split at found
    · next starts =>
        split at found
        · next back inner =>
            cases found
            obtain ⟨rfl, isKey, _⟩ := atStart?_eq_some_iff.1 inner
            exact ⟨[], ':' :: back, rfl, ⟨getLast?_isNone.1 starts, rfl⟩, isKey, rfl⟩
        · cases found
    · cases found
  · rintro ⟨_, behind, rfl, ⟨rfl, rfl⟩, isKey, closes⟩
    obtain ⟨back, rfl⟩ := List.head?_eq_some_iff.1 closes
    have inner : atStart? (key ++ ':' :: back) = some (key, ':' :: back) :=
      atStart?_append isKey (by simpa using notDigit)
    simp [Place.keyHere?, inner]

theorem hash_keyHere?_eq_some_iff {passed text key : List Char} :
    Place.hash.keyHere? passed.getLast? text = some key ↔ Place.hash.Begins passed text key := by
  constructor
  · intro found
    simp only [Place.keyHere?] at found
    split at found
    · obtain ⟨behind, rfl, isKey, edge⟩ := standing_eq_some_iff.1 found
      exact ⟨['#'], behind, rfl, rfl, isKey, edge⟩
    · cases found
  · rintro ⟨_, behind, rfl, rfl, isKey, edge⟩
    exact standing_eq_some_iff.2 ⟨behind, rfl, isKey, edge⟩

theorem bare_keyHere?_eq_some_iff {passed text key : List Char} :
    Place.bare.keyHere? passed.getLast? text = some key ↔ Place.bare.Begins passed text key := by
  constructor
  · intro found
    simp only [Place.keyHere?] at found
    split at found
    · next edgeBefore =>
        obtain ⟨behind, rfl, isKey, edge⟩ := standing_eq_some_iff.1 found
        exact ⟨[], behind, rfl, ⟨rfl, edgeBefore⟩, isKey, edge⟩
    · cases found
  · rintro ⟨_, behind, rfl, ⟨rfl, edgeBefore⟩, isKey, edge⟩
    exact (if_pos edgeBefore).trans (standing_eq_some_iff.2 ⟨behind, rfl, isKey, edge⟩)

theorem scope_keyHere?_eq_some_iff {passed text key : List Char} :
    Place.scope.keyHere? passed.getLast? text = some key ↔ Place.scope.Begins passed text key := by
  have notWord : Text.isWordChar '(' = false := isEdge_some.1 (isEdge_mark (by simp))
  have notDigit : Text.isDecimalDigit ')' = false := isDecimalDigit_mark (by simp)
  constructor
  · intro found
    simp only [Place.keyHere?] at found
    split at found
    · next starts =>
        rw [Bool.and_eq_true, getLast?_isNone, Bool.not_eq_true', List.isEmpty_eq_false_iff]
          at starts
        split at found
        · next back inner =>
            split at found
            · next closes =>
                cases found
                obtain ⟨dropped, isKey⟩ := (enclosed?_eq_some_iff notDigit).1 inner
                refine ⟨text.takeWhile Text.isWordChar ++ ['('], ')' :: back, ?_,
                  ⟨starts.1, _, starts.2, fun c => List.mem_takeWhile_imp, rfl⟩, isKey, ?_⟩
                · rw [List.append_assoc, List.singleton_append, ← dropped,
                    List.takeWhile_append_dropWhile]
                · obtain ⟨rest, rfl | rfl⟩ := endsScope_iff.1 closes
                  · exact ⟨rest, .inl rfl⟩
                  · exact ⟨rest, .inr rfl⟩
            · cases found
        · cases found
    · cases found
  · rintro ⟨_, behind, rfl, ⟨rfl, word, nonempty, wordChars, rfl⟩, isKey, closes⟩
    obtain ⟨back, rfl, ends⟩ : ∃ back, behind = ')' :: back ∧ Place.endsScope back = true := by
      obtain ⟨rest, rfl | rfl⟩ := closes
      · exact ⟨_, rfl, rfl⟩
      · exact ⟨_, rfl, rfl⟩
    have split := takeWhile_append_cons wordChars notWord (key ++ ')' :: back)
    have inner : Place.enclosed? '(' ')' ('(' :: (key ++ ')' :: back)) = some (key, back) :=
      (enclosed?_eq_some_iff notDigit).2 ⟨rfl, isKey⟩
    rw [List.append_assoc, List.singleton_append]
    simp only [Place.keyHere?, split.1, split.2, inner, ends]
    simp [nonempty]

/-- What is found in a place right here is a key that stands in that place. -/
theorem keyHere?_eq_some_iff {place : Place} {passed text key : List Char} :
    place.keyHere? passed.getLast? text = some key ↔ place.Begins passed text key := by
  cases place with
  | scope => exact scope_keyHere?_eq_some_iff
  | bracketed => exact enclosedKey_eq_some_iff (isDecimalDigit_mark (by simp))
  | parenthesized => exact enclosedKey_eq_some_iff (isDecimalDigit_mark (by simp))
  | leading => exact leading_keyHere?_eq_some_iff
  | hash => exact hash_keyHere?_eq_some_iff
  | bare => exact bare_keyHere?_eq_some_iff

/-! ## The first key of a text -/

theorem Place.matches_iff {place : Place} {passed rest key : List Char} :
    place.Matches (passed ++ rest) passed key ↔
      place.keyHere? passed.getLast? rest = some key := by
  rw [keyHere?_eq_some_iff]
  unfold Place.Matches
  simp only [List.append_cancel_left_eq, exists_eq_left']

/-- Where a place is not found right here, it is found further on or not at all. -/
theorem Place.Matches.later {place : Place} {passed rest earlier key : List Char} {c : Char}
    (found : place.Matches (passed ++ c :: rest) earlier key)
    (behind : passed.length ≤ earlier.length)
    (notHere : place.keyHere? passed.getLast? (c :: rest) = none) :
    (passed ++ [c]).length ≤ earlier.length := by
  rw [List.length_append, List.length_singleton]
  by_contra short
  have same : earlier = passed := by
    obtain ⟨further, whole, _⟩ := found
    exact (List.append_inj whole (by omega)).1.symm
  rw [same, Place.matches_iff, notHere] at found
  cases found

theorem Place.Matches.length_lt {place : Place} {text passed key : List Char}
    (found : place.Matches text passed key) : passed.length < text.length := by
  obtain ⟨_, rfl, opening, behind, rfl, _, isKey, _⟩ := found
  have nonempty := List.length_pos_iff.2 isKey.ne_nil
  simp only [List.length_append]
  omega

/-- What is found from here on is the first key in its place from here on. -/
theorem findFrom?_eq_some {place : Place} (passed : List Char) {rest key : List Char}
    (found : place.findFrom? passed.getLast? rest = some key) :
    ∃ before, place.Matches (passed ++ rest) before key ∧
      ∀ earlier other, passed.length ≤ earlier.length →
        place.Matches (passed ++ rest) earlier other → before.length ≤ earlier.length := by
  induction rest generalizing passed with
  | nil => cases found
  | cons c rest inductionHypothesis =>
      rw [Place.findFrom?] at found
      split at found
      · next here =>
          cases found
          exact ⟨passed, Place.matches_iff.2 here, fun _ _ behind _ => behind⟩
      · next notHere =>
          rw [← List.getLast?_concat (l := passed)] at found
          obtain ⟨before, isFound, first⟩ := inductionHypothesis (passed ++ [c]) found
          rw [List.append_assoc, List.singleton_append] at isFound first
          refine ⟨before, isFound, fun earlier other behind isThere => ?_⟩
          exact first earlier other (isThere.later behind notHere) isThere

theorem findFrom?_eq_none {place : Place} (passed : List Char) {rest : List Char}
    (notFound : place.findFrom? passed.getLast? rest = none) :
    ∀ earlier other, passed.length ≤ earlier.length →
      ¬place.Matches (passed ++ rest) earlier other := by
  induction rest generalizing passed with
  | nil =>
      intro earlier other behind isThere
      have inside := isThere.length_lt
      rw [List.append_nil] at inside
      omega
  | cons c rest inductionHypothesis =>
      rw [Place.findFrom?] at notFound
      split at notFound
      · cases notFound
      · next notHere =>
          rw [← List.getLast?_concat (l := passed)] at notFound
          have nowhere := inductionHypothesis (passed ++ [c]) notFound
          rw [List.append_assoc, List.singleton_append] at nowhere
          intro earlier other behind isThere
          exact nowhere earlier other (isThere.later behind notHere) isThere

theorem Place.hasFirst_of_find? {place : Place} {text key : List Char}
    (found : place.find? text = some key) : place.HasFirst text key := by
  obtain ⟨before, isFound, first⟩ := findFrom?_eq_some [] found
  exact ⟨before, isFound, fun earlier other => first earlier other (Nat.zero_le _)⟩

theorem Place.not_occurs_of_find? {place : Place} {text : List Char}
    (notFound : place.find? text = none) : ¬place.Occurs text := by
  rintro ⟨earlier, other, isThere⟩
  exact findFrom?_eq_none [] notFound earlier other (Nat.zero_le _) isThere

theorem Place.isSome_find? {place : Place} {text : List Char} :
    (place.find? text).isSome = true ↔ place.Occurs text := by
  constructor
  · intro isSome
    obtain ⟨key, found⟩ := Option.isSome_iff_exists.1 isSome
    obtain ⟨before, isFound, _⟩ := hasFirst_of_find? found
    exact ⟨before, key, isFound⟩
  · intro occurs
    rw [Option.isSome_iff_ne_none]
    intro notFound
    exact not_occurs_of_find? notFound occurs

theorem isSome_ofText? {text : String} :
    (ofText? text).isSome = true ↔ ∃ key, StandsIn text.toList key := by
  unfold ofText?
  rw [Option.isSome_map, Place.isSome_find?]
  constructor
  · rintro ⟨passed, key, found⟩
    exact ⟨key, found.standsIn⟩
  · rintro ⟨key, stands⟩
    exact stands.occurs_bare

/-! ## The clearest place -/

theorem Place.mem_all (place : Place) : place ∈ all := by
  cases place <;> decide

theorem Place.all_sorted : all.Pairwise fun clearer place => clearer.rank < place.rank := by
  decide

theorem Place.mem_clearer {clearerPlaces lessClear : List Place} {place clearer : Place}
    (order : all = clearerPlaces ++ place :: lessClear) (isClearer : clearer.rank < place.rank) :
    clearer ∈ clearerPlaces := by
  have member := clearer.mem_all
  have sorted := all_sorted
  rw [order] at member sorted
  rw [List.pairwise_append, List.pairwise_cons] at sorted
  rcases List.mem_append.1 member with isAhead | isBehind
  · exact isAhead
  · rcases List.mem_cons.1 isBehind with rfl | isLater
    · exact absurd isClearer (lt_irrefl _)
    · exact absurd isClearer (lt_asymm (sorted.2.1.1 clearer isLater))

theorem isSome_ofCommits? {commits : List String} :
    (ofCommits? commits).isSome = true ↔
      ∃ commit ∈ commits, ∃ key, StandsIn (Text.trim commit.toList) key := by
  unfold ofCommits?
  simp only [List.findSome?_isSome_iff, Option.isSome_map, Place.isSome_find?]
  constructor
  · rintro ⟨place, _, commit, member, passed, key, found⟩
    exact ⟨commit, member, key, found.standsIn⟩
  · rintro ⟨commit, member, key, stands⟩
    exact ⟨.bare, Place.mem_all _, commit, member, stands.occurs_bare⟩

theorem not_occurs_of_findSome? {place : Place} {commits : List String}
    (notFound : (commits.findSome? fun commit =>
      (place.find? (Text.trim commit.toList)).map String.ofList) = none) :
    ∀ commit ∈ commits, ¬place.Occurs (Text.trim commit.toList) := by
  intro commit member
  have here := List.findSome?_eq_none_iff.1 notFound commit member
  exact Place.not_occurs_of_find? (Option.map_eq_none_iff.1 here)

/-- The messages yield a key if and only if a key stands by itself in one of them.  It is then
one from the clearest place that occurs in any of them, the first in the first message where
that place occurs. -/
theorem clearest_ofCommits? (commits : List String) :
    ((ofCommits? commits).isSome = true ↔
      ∃ commit ∈ commits, ∃ key, StandsIn (Text.trim commit.toList) key) ∧
    ((ofCommits? commits).isSome = true ↔
      ∃ commit ∈ commits, (ofText? (Text.trimmed commit)).isSome = true) ∧
    ∀ key, ofCommits? commits = some key →
      ∃ (place : Place) (earlier later : List String) (commit : String),
        commits = earlier ++ commit :: later ∧
        place.HasFirst (Text.trim commit.toList) key.toList ∧
        StandsIn (Text.trim commit.toList) key.toList ∧
        (∀ other ∈ earlier, ¬place.Occurs (Text.trim other.toList)) ∧
        ∀ clearer : Place, clearer.rank < place.rank →
          ∀ other ∈ commits, ¬clearer.Occurs (Text.trim other.toList) := by
  refine ⟨isSome_ofCommits?, ?_, ?_⟩
  · simp only [isSome_ofCommits?, isSome_ofText?, Text.trimmed, String.toList_ofList]
  · intro key found
    obtain ⟨clearerPlaces, place, lessClear, order, inPlace, nowhere⟩ :=
      List.findSome?_eq_some_iff.1 found
    obtain ⟨earlier, commit, later, rfl, inCommit, before⟩ :=
      List.findSome?_eq_some_iff.1 inPlace
    obtain ⟨chars, here, rfl⟩ := Option.map_eq_some_iff.1 inCommit
    have isFirst := Place.hasFirst_of_find? here
    have stands : StandsIn (Text.trim commit.toList) chars := by
      obtain ⟨passed, isFound, _⟩ := isFirst
      exact isFound.standsIn
    rw [String.toList_ofList]
    refine ⟨place, earlier, later, commit, rfl, isFirst, stands, ?_, ?_⟩
    · intro other member
      exact Place.not_occurs_of_find? (Option.map_eq_none_iff.1 (before other member))
    · intro clearer isClearer
      apply not_occurs_of_findSome?
      apply nowhere
      exact Place.mem_clearer order isClearer

example : ofCommits? ["see AB-1", "fix(CD-2): it", "[EF-3] fix"] = some "EF-3" := by
  decide +kernel

end ChatOps.IssueKey
