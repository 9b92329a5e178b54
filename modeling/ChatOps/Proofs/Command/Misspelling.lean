import ChatOps.Proofs.Command.Addressed
import ChatOps.Proofs.Text.Likeness
import ChatOps.Proofs.Text.Ranking
import Mathlib.Data.Prod.Lex

/-!
# Suggestions for misspelt commands

A text that is no command is compared with the commands of the tables.  What is offered are
the best of those that are alike in their address and in their name, the address counting
first, and a command that is merely written in another case comes before all others
(`similarCommands_best`).  Likeness is the exact share of a text that need not be edited.
-/

set_option autoImplicit false

namespace ChatOps

open ChatOps.Text

/-! ## Shares -/

/-- The share of two texts that need not be edited to turn one into the other. -/
def share (left right : String) : ℚ :=
  1 - editDistance left right / max left.toList.length right.toList.length

theorem share_le_one (left right : String) : share left right ≤ 1 :=
  (share_mem (by exact_mod_cast editDistance_le_max left right)).2

theorem share_eq_one_iff {left right : String} : share left right = 1 ↔ left = right := by
  rw [← editDistance_eq_zero_iff]
  have bound := editDistance_le_max left right
  rw [share, sub_eq_self, div_eq_zero_iff]
  constructor
  · rintro (none | empty)
    · exact_mod_cast none
    · have noChars : max left.toList.length right.toList.length = 0 := by exact_mod_cast empty
      omega
  · intro none
    exact .inl (by exact_mod_cast none)

namespace Likeness

def value (likeness : Likeness) : ℚ := likeness.kept / likeness.longest

/-- Whether a likeness is that of texts with this share in common. -/
structure Measures (likeness : Likeness) (share : ℚ) : Prop where
  positive : 0 < likeness.longest
  value : likeness.value = share

theorem measures_full : full.Measures 1 := ⟨Nat.one_pos, div_self one_ne_zero⟩

theorem measures_of (left right : String) : (of left right).Measures (share left right) := by
  have bound := editDistance_le_max left right
  rw [of, share]
  by_cases empty : max left.toList.length right.toList.length = 0
  · have none : editDistance left right = 0 := by omega
    simp only [empty, if_true, none]
    exact ⟨Nat.one_pos, by norm_num [Likeness.value, full]⟩
  · have positive := Nat.pos_of_ne_zero empty
    simp only [empty, if_false]
    refine ⟨positive, ?_⟩
    have nonzero : ((max left.toList.length right.toList.length : ℕ) : ℚ) ≠ 0 :=
      Nat.cast_ne_zero.2 empty
    rw [Likeness.value, Nat.cast_sub bound, sub_div, div_self nonzero]

variable {left right : Likeness} {leftShare rightShare : ℚ}

theorem Measures.isClose_iff (measures : left.Measures leftShare) :
    left.isClose = true ↔ 3 / 5 < leftShare := by
  have positive : (0 : ℚ) < left.longest := Nat.cast_pos.2 measures.positive
  rw [isClose, decide_eq_true_eq, ← measures.value, Likeness.value,
    div_lt_div_iff₀ (by norm_num) positive, mul_comm (left.kept : ℚ)]
  exact_mod_cast Iff.rfl

theorem Measures.lt_iff (leftMeasures : left.Measures leftShare)
    (rightMeasures : right.Measures rightShare) :
    left.kept * right.longest < right.kept * left.longest ↔ leftShare < rightShare := by
  have leftPositive : (0 : ℚ) < left.longest := Nat.cast_pos.2 leftMeasures.positive
  have rightPositive : (0 : ℚ) < right.longest := Nat.cast_pos.2 rightMeasures.positive
  rw [← leftMeasures.value, ← rightMeasures.value, Likeness.value, Likeness.value,
    div_lt_div_iff₀ leftPositive rightPositive]
  exact_mod_cast Iff.rfl

/-- Likenesses compare like the shares that they measure. -/
theorem Measures.order_eq (leftMeasures : left.Measures leftShare)
    (rightMeasures : right.Measures rightShare) :
    left.order right = compare leftShare rightShare := by
  have lower := leftMeasures.lt_iff rightMeasures
  have higher := rightMeasures.lt_iff leftMeasures
  rw [order]
  rcases lt_trichotomy leftShare rightShare with less | rfl | greater
  · rw [compare_lt_iff_lt.2 less, compare_lt_iff_lt.2 (lower.2 less)]
  · rw [compare_eq_iff_eq.2 rfl, compare_eq_iff_eq]
    exact le_antisymm (not_lt.1 (mt higher.1 (lt_irrefl _)))
      (not_lt.1 (mt lower.1 (lt_irrefl _)))
  · rw [compare_gt_iff_gt.2 greater, compare_gt_iff_gt]
    exact higher.2 greater

end Likeness

/-! ## The tables -/

/-- A command that can be offered: one of a domain, or a built-in one. -/
inductive Offer where
  | domain (place : Domain) (command : String)
  | system (command : String)
  deriving DecidableEq

namespace Offer

/-- The command as users write it. -/
def text : Offer → String
  | .domain place command => "@" ++ place.name ++ ":" ++ command
  | .system command => "/" ++ command

/-- The commands of all domains, in table order. -/
def ofDomains : List Offer :=
  Domain.all.flatMap fun place => place.commonCommands.map (.domain place)

/-- The built-in commands, in table order. -/
def ofSystem : List Offer := Candidate.systemCommands.map .system

/-- The commands of the namespace that the sign of a word selects. -/
def table (word : List Char) : List Offer :=
  match word.head? with
  | some '@' => ofDomains
  | some '/' => ofSystem
  | _ => []

/-- What stands between the sign of a word and its first colon, in lower case. -/
def addressPart (word : List Char) : String :=
  asciiLower (String.ofList (word.tail.takeWhile (· != ':')))

/-- What stands between the first colon of a word and the second, in lower case. -/
def commandPart (word : List Char) : String :=
  asciiLower (String.ofList ((word.tail.dropWhile (· != ':')).tail.takeWhile (· != ':')))

/-- What stands behind the sign of a word, in lower case. -/
def barePart (word : List Char) : String := asciiLower (String.ofList word.tail)

/-- How much the address of a command is like that of a word. -/
def addressScore (word : List Char) : Offer → ℚ
  | .domain place _ => share (addressPart word) place.name
  | .system _ => 1

/-- How much the name of a command is like that in a word.  A missing name is like all
names. -/
def commandScore (word : List Char) : Offer → ℚ
  | .domain _ command =>
      if commandPart word = "" then 1 else share (commandPart word) command
  | .system command => share (barePart word) command

/-- The rank of a command: by its address, and then by its name. -/
def rank (word : List Char) (offer : Offer) : ℚ ×ₗ ℚ :=
  toLex (addressScore word offer, commandScore word offer)

/-- Whether a command is enough like a word to be offered. -/
def IsAlike (word : List Char) (offer : Offer) : Prop :=
  3 / 5 < addressScore word offer ∧ 3 / 5 < commandScore word offer

instance (word : List Char) (offer : Offer) : Decidable (IsAlike word offer) :=
  inferInstanceAs (Decidable (_ ∧ _))

/-- The command with its likenesses to a word. -/
def candidate (word : List Char) (offer : Offer) : Candidate :=
  match offer with
  | .domain place command =>
      ⟨.of (addressPart word) place.name,
        if (commandPart word).isEmpty then .full else .of (commandPart word) command,
        offer.text⟩
  | .system command => ⟨.full, .of (barePart word) command, offer.text⟩

theorem text_candidate (word : List Char) (offer : Offer) :
    (candidate word offer).text = offer.text := by
  cases offer <;> rfl

theorem measures_address (word : List Char) (offer : Offer) :
    (candidate word offer).address.Measures (addressScore word offer) := by
  cases offer with
  | domain place command =>
      simp only [candidate, addressScore]
      exact Likeness.measures_of _ _
  | system command =>
      simp only [candidate, addressScore]
      exact Likeness.measures_full

theorem measures_command (word : List Char) (offer : Offer) :
    (candidate word offer).command.Measures (commandScore word offer) := by
  cases offer with
  | domain place command =>
      simp only [candidate, commandScore, String.isEmpty_iff]
      split
      · exact Likeness.measures_full
      · exact Likeness.measures_of _ _
  | system command =>
      simp only [candidate, commandScore]
      exact Likeness.measures_of _ _

theorem before_candidate (word : List Char) (first second : Offer) :
    (candidate word first).before (candidate word second) =
      ranksAbove (rank word) first second := by
  rw [Candidate.before, (measures_address word first).order_eq (measures_address word second),
    (measures_command word first).order_eq (measures_command word second), Bool.eq_iff_iff,
    ranksAbove, decide_eq_true_eq, rank, rank, Prod.Lex.toLex_le_toLex]
  rcases lt_trichotomy (addressScore word first) (addressScore word second) with
    less | same | greater
  · rw [compare_lt_iff_lt.2 less]
    simp [less.le, less.ne']
  · rw [compare_eq_iff_eq.2 same, same]
    simp [compare_lt_iff_lt]
  · rw [compare_gt_iff_gt.2 greater]
    simp [greater]

/-! ## Candidates -/

theorem filterMap_ite {Item Other : Type} (keep : Item → Bool) (change : Item → Other)
    (items : List Item) :
    items.filterMap (fun item => if keep item then some (change item) else none) =
      (items.filter keep).map change := by
  rw [← List.filterMap_eq_map, List.filterMap_filter]
  rfl

theorem segments_eq (word : List Char) :
    Candidate.segments word.tail = (addressPart word, commandPart word) := by
  rw [Candidate.segments, addressPart, commandPart]
  have notColon (text : List Char) (absent : ':' ∉ text) :
      ∀ c ∈ text, (c != ':') = true :=
    fun c member => bne_iff_ne.2 fun colon => absent (colon ▸ member)
  -- Both sides stop at the first colon, or at the end if there is none.
  cases cut : cut? ':' word.tail with
  | none =>
      have before := notColon _ (cut?_eq_none_iff.1 cut)
      rw [List.takeWhile_eq_self_iff.2 before, List.dropWhile_eq_nil_iff.2 before]
      rfl
  | some halves =>
      obtain ⟨target, rest⟩ := halves
      obtain ⟨whole, absent⟩ := cut?_eq_some cut
      rw [whole, List.takeWhile_append_of_pos (notColon target absent),
        List.dropWhile_append_of_pos (notColon target absent)]
      simp

theorem decide_isAlike (word : List Char) (offer : Offer) :
    decide (IsAlike word offer) =
      ((candidate word offer).address.isClose && (candidate word offer).command.isClose) := by
  rw [Bool.eq_iff_iff, decide_eq_true_eq, Bool.and_eq_true,
    (measures_address word offer).isClose_iff, (measures_command word offer).isClose_iff]
  exact Iff.rfl

theorem ofDomain_eq (word : List Char) (place : Domain) :
    Candidate.ofDomain (.of (addressPart word) place.name) place (commandPart word) =
      ((place.commonCommands.map (.domain place)).filter fun offer =>
        (candidate word offer).command.isClose).map (candidate word) := by
  simp only [Candidate.ofDomain, filterMap_ite, List.filter_map, List.map_map,
    Function.comp_def, candidate, text]

theorem filter_domain (word : List Char) (place : Domain) :
    (place.commonCommands.map (.domain place)).filter
        (fun offer => decide (IsAlike word offer)) =
      if (Likeness.of (addressPart word) place.name).isClose then
        (place.commonCommands.map (.domain place)).filter fun offer =>
          (candidate word offer).command.isClose
      else [] := by
  simp only [decide_isAlike, List.filter_map, Function.comp_def]
  cases close : (Likeness.of (addressPart word) place.name).isClose with
  | true => simp [candidate, close]
  | false => simp [candidate, close]

theorem ofDomains_eq (word : List Char) :
    Candidate.ofDomains (addressPart word) (commandPart word) =
      (ofDomains.filter fun offer => decide (IsAlike word offer)).map (candidate word) := by
  rw [Candidate.ofDomains, ofDomains, List.filter_flatMap, List.map_flatMap]
  simp only [filter_domain, apply_ite (List.map (candidate word)), ← ofDomain_eq, List.map_nil]

theorem ofSystem_eq (word : List Char) :
    Candidate.ofSystem (barePart word) =
      (ofSystem.filter fun offer => decide (IsAlike word offer)).map (candidate word) := by
  have close : Likeness.full.isClose = true := by decide
  simp only [Candidate.ofSystem, ofSystem, filterMap_ite, decide_isAlike, List.filter_map,
    List.map_map, Function.comp_def, candidate, close, Bool.true_and, text]

theorem ofWord_eq (word : List Char) :
    Candidate.ofWord word =
      ((table word).filter fun offer => decide (IsAlike word offer)).map (candidate word) := by
  cases word with
  | nil => rfl
  | cons sign rest =>
      by_cases isAt : sign = '@'
      · subst isAt
        have parts := segments_eq ('@' :: rest)
        rw [List.tail_cons] at parts
        have isDomains : Candidate.ofWord ('@' :: rest) =
            Candidate.ofDomains (addressPart ('@' :: rest)) (commandPart ('@' :: rest)) := by
          simp only [Candidate.ofWord, parts]
        exact isDomains.trans (ofDomains_eq ('@' :: rest))
      · by_cases isSlash : sign = '/'
        · subst isSlash
          exact ofSystem_eq ('/' :: rest)
        · have none : Candidate.ofWord (sign :: rest) = [] := by
            rw [Candidate.ofWord]
            · rintro _ ⟨⟩
              exact isAt rfl
            · rintro _ ⟨⟩
              exact isSlash rfl
          have noTable : table (sign :: rest) = [] := by
            rw [table, List.head?_cons]
            split
            · next same => exact absurd (Option.some.inj same) isAt
            · next same => exact absurd (Option.some.inj same) isSlash
            · rfl
          rw [none, noTable]
          rfl

/-! ## Commands that are written out -/

/-- Whether a word names a command in full, apart from the case of its letters. -/
def Spells (word : List Char) : Offer → Prop
  | .domain place command =>
      addressPart word = place.name ∧ commandPart word = command ∧ command ≠ ""
  | .system command => barePart word = command

instance (word : List Char) (offer : Offer) : Decidable (Spells word offer) :=
  match offer with
  | .domain _ _ => inferInstanceAs (Decidable (_ ∧ _ ∧ _))
  | .system _ => inferInstanceAs (Decidable (_ = _))

theorem spells_text : ∀ offer ∈ ofDomains ++ ofSystem, Spells offer.text.toList offer := by
  decide +kernel

theorem asciiLower_ofList_map (text : List Char) :
    asciiLower (String.ofList (text.map Char.toLower)) = asciiLower (String.ofList text) := by
  simp [asciiLower, Function.comp_def]

theorem notColon_comp_toLower : (fun c : Char => c != ':') ∘ Char.toLower = (· != ':') := by
  funext c
  rw [Function.comp_apply, Bool.eq_iff_iff, bne_iff_ne, bne_iff_ne, ne_eq, ne_eq,
    toLower_eq_colon_iff]

theorem addressPart_map (word : List Char) :
    addressPart (word.map Char.toLower) = addressPart word := by
  rw [addressPart, addressPart, ← List.map_tail, List.takeWhile_map, notColon_comp_toLower,
    asciiLower_ofList_map]

theorem commandPart_map (word : List Char) :
    commandPart (word.map Char.toLower) = commandPart word := by
  rw [commandPart, commandPart, ← List.map_tail, List.dropWhile_map, ← List.map_tail,
    List.takeWhile_map, notColon_comp_toLower, asciiLower_ofList_map]

theorem barePart_map (word : List Char) :
    barePart (word.map Char.toLower) = barePart word := by
  rw [barePart, barePart, ← List.map_tail, asciiLower_ofList_map]

theorem spells_map_iff (word : List Char) (offer : Offer) :
    Spells (word.map Char.toLower) offer ↔ Spells word offer := by
  cases offer with
  | domain place command => rw [Spells, Spells, addressPart_map, commandPart_map]
  | system command => rw [Spells, Spells, barePart_map]

theorem table_cases (word : List Char) :
    table word = ofDomains ∨ table word = ofSystem ∨ table word = [] := by
  rw [table]
  split
  · exact .inl rfl
  · exact .inr (.inl rfl)
  · exact .inr (.inr rfl)

theorem mem_table {word : List Char} {offer : Offer} (member : offer ∈ table word) :
    offer ∈ ofDomains ++ ofSystem := by
  rcases table_cases word with domains | system | none
  · exact List.mem_append_left _ (domains ▸ member)
  · exact List.mem_append_right _ (system ▸ member)
  · rw [none] at member
    cases member

theorem spells_of_sameIgnoringCase {word : List Char} {offer : Offer}
    (member : offer ∈ table word)
    (same : sameIgnoringCase (String.ofList word) offer.text = true) : Spells word offer := by
  have equal := congrArg String.toList (beq_iff_eq.1 same)
  simp only [asciiLower, String.toList_ofList] at equal
  rw [← spells_map_iff, equal, spells_map_iff]
  exact spells_text offer (mem_table member)

theorem rank_of_spells {word : List Char} {offer : Offer} (spells : Spells word offer) :
    rank word offer = toLex (1, 1) := by
  cases offer with
  | domain place command =>
      obtain ⟨address, name, nonempty⟩ := spells
      rw [rank, addressScore, commandScore, address, name, if_neg nonempty,
        share_eq_one_iff.2 rfl, share_eq_one_iff.2 rfl]
  | system command =>
      rw [rank, addressScore, commandScore, spells, share_eq_one_iff.2 rfl]

theorem share_lt_one {left right : String} (different : left ≠ right) : share left right < 1 :=
  lt_of_le_of_ne (share_le_one left right) (mt share_eq_one_iff.1 different)

/-- A command that is named in full ranks above all others. -/
theorem rank_lt_of_spells {word : List Char} {offer other : Offer} (spells : Spells word offer)
    (member : offer ∈ table word) (otherMember : other ∈ table word) (different : other ≠ offer) :
    rank word other < rank word offer := by
  rw [rank_of_spells spells, rank, Prod.Lex.toLex_lt_toLex]
  have isDomain : ∀ offer ∈ ofDomains, ∃ place command, offer = .domain place command := by
    intro offer member
    obtain ⟨place, _, ofPlace⟩ := List.mem_flatMap.1 member
    obtain ⟨command, _, rfl⟩ := List.mem_map.1 ofPlace
    exact ⟨place, command, rfl⟩
  have isSystem : ∀ offer ∈ ofSystem, ∃ command, offer = .system command := by
    simp [ofSystem]
  -- A domain tells the commands of others apart, and its own are told apart by their names.
  rcases table_cases word with domains | system | none
  · rw [domains] at member otherMember
    obtain ⟨place, command, rfl⟩ := isDomain offer member
    obtain ⟨otherPlace, otherCommand, rfl⟩ := isDomain other otherMember
    obtain ⟨address, name, nonempty⟩ := spells
    rw [addressScore, commandScore, address, name, if_neg nonempty]
    by_cases samePlace : otherPlace = place
    · subst samePlace
      exact .inr ⟨share_eq_one_iff.2 rfl, share_lt_one fun same => different (by rw [same])⟩
    · exact .inl (share_lt_one fun same => samePlace (Domain.name_inj same).symm)
  · rw [system] at member otherMember
    obtain ⟨command, rfl⟩ := isSystem offer member
    obtain ⟨otherCommand, rfl⟩ := isSystem other otherMember
    rw [addressScore, commandScore, show barePart word = command from spells]
    exact .inr ⟨rfl, share_lt_one fun same => different (by rw [same])⟩
  · rw [none] at member
    cases member

theorem isAlike_of_spells {word : List Char} {offer : Offer} (spells : Spells word offer) :
    IsAlike word offer := by
  have top := rank_of_spells spells
  have address : addressScore word offer = 1 := congrArg (fun scores => (ofLex scores).1) top
  have command : commandScore word offer = 1 := congrArg (fun scores => (ofLex scores).2) top
  rw [IsAlike, address, command]
  norm_num

/-! ## What is offered -/

theorem nodup_map_text (word : List Char) : ((table word).map text).Nodup := by
  have domains : (ofDomains.map text).Nodup := by decide +kernel
  have system : (ofSystem.map text).Nodup := by decide +kernel
  rcases table_cases word with isTable | isTable | isTable <;> rw [isTable]
  · exact domains
  · exact system
  · exact List.nodup_nil

/-- The commands that are offered for a word. -/
def chosen (word : List Char) : List Offer :=
  (((table word).filter fun offer => decide (IsAlike word offer)).mergeSort
    (ranksAbove (rank word))).take Candidate.most

theorem similarCommands_eq (text : String) :
    similarCommands text = (chosen (firstWord text.toList)).map Offer.text := by
  have sorted (word : List Char) := List.map_mergeSort
    (l := (table word).filter fun offer => decide (IsAlike word offer))
    fun first _ second _ => (before_candidate word first second).symm
  rw [similarCommands, ofWord_eq, ← sorted, ← List.map_take, List.map_map, chosen]
  exact List.map_congr_left fun offer _ => text_candidate _ offer

theorem best_chosen (word : List Char) :
    Best (table word) (rank word) (IsAlike word) 3 (chosen word) := by
  have best := best_take_mergeSort (table word) (rank word)
    (fun offer => decide (IsAlike word offer)) Candidate.most
  simp only [decide_eq_true_eq] at best
  exact best

end Offer

/-- What is offered for a text are the best of the commands that are alike its first word,
at most three and no command twice.  A command that is the first word itself, apart from
the case of letters, comes first. -/
theorem similarCommands_best (text : String) :
    let word := firstWord text.toList
    ∃ chosen, similarCommands text = chosen.map Offer.text ∧ (similarCommands text).Nodup ∧
      Best (Offer.table word) (Offer.rank word) (Offer.IsAlike word) 3 chosen ∧
      ∀ offer ∈ Offer.table word, sameIgnoringCase (String.ofList word) offer.text = true →
        chosen.head? = some offer := by
  intro word
  have best := Offer.best_chosen word
  have texts := Offer.nodup_map_text word
  refine ⟨Offer.chosen word, Offer.similarCommands_eq text, ?_, best, ?_⟩
  · rw [Offer.similarCommands_eq]
    refine (best.nodup texts.of_map).map_on ?_
    intro first firstChosen second secondChosen
    exact List.inj_on_of_nodup_map texts (best.fitting first firstChosen).1
      (best.fitting second secondChosen).1
  · intro offer member same
    have spells := Offer.spells_of_sameIgnoringCase member same
    exact best.head?_eq (by decide) member (Offer.isAlike_of_spells spells)
      fun other otherMember different =>
        Offer.rank_lt_of_spells spells member otherMember different

example : similarCommands "@gti:comit now" = ["@git:commit"] := by decide +kernel

end ChatOps
