import ChatOps.Json.Reader
import Mathlib.Tactic.SplitIfs

/-!
# Texts in brackets

A text that begins with a bracket or a brace is never read as a string.  Lexemes are
only ever added (`LexState.found_run`), so the first one is an opening one, and from
then on the outermost value is an array or an object (`BuildState.isNested_run`).
-/

set_option autoImplicit false

namespace ChatOps

/-! ## Lexemes -/

theorem LexState.found_close {state closed : LexState} (read : state.close? = some closed) :
    state.found <:+ closed.found := by
  obtain ⟨found, mode⟩ := state
  cases mode with
  | between =>
      cases read
      exact List.suffix_rfl
  | word sofar =>
      obtain ⟨json, _, equal⟩ := Option.bind_eq_some_iff.1 read
      cases equal
      exact List.suffix_cons _ _
  | number sofar =>
      obtain ⟨numeral, _, equal⟩ := Option.bind_eq_some_iff.1 read
      cases equal
      exact List.suffix_cons _ _
  | _ => cases read

theorem LexState.found_open {state next : LexState} {c : Char}
    (read : state.open? c = some next) : state.found <:+ next.found := by
  simp only [open?] at read
  split_ifs at read <;> cases read <;>
    first | exact List.suffix_rfl | exact List.suffix_cons _ _

theorem LexState.found_endCode {state next : LexState} {sofar : List Char}
    {high : Option Nat} {value : Nat}
    (read : state.endCode? sofar high value = some next) : next.found = state.found := by
  cases high <;> simp only [endCode?] at read <;> split_ifs at read <;> cases read <;> rfl

theorem LexState.found_step {state next : LexState} {c : Char}
    (read : state.step c = some next) : state.found <:+ next.found := by
  have closing (closed : LexState) (first : state.close? = some closed)
      (opening : closed.open? c = some next) : state.found <:+ next.found :=
    (found_close first).trans (found_open opening)
  cases mode : state.mode with
  | between =>
      simp only [step, mode] at read
      exact found_open read
  | word sofar =>
      simp only [step, mode] at read
      split at read
      · cases read
        exact List.suffix_rfl
      · obtain ⟨closed, first, opening⟩ := Option.bind_eq_some_iff.1 read
        exact closing closed first opening
  | number sofar =>
      simp only [step, mode] at read
      split at read
      · cases read
        exact List.suffix_rfl
      · obtain ⟨closed, first, opening⟩ := Option.bind_eq_some_iff.1 read
        exact closing closed first opening
  | text sofar =>
      simp only [step, mode] at read
      split_ifs at read <;> cases read
      · exact List.suffix_cons _ _
      · exact List.suffix_rfl
      · exact List.suffix_rfl
  | escape sofar =>
      simp only [step, mode] at read
      split_ifs at read
      · cases read
        exact List.suffix_rfl
      · obtain ⟨meant, _, equal⟩ := Option.bind_eq_some_iff.1 read
        cases equal
        exact List.suffix_rfl
  | code sofar high value missing =>
      simp only [step, mode] at read
      obtain ⟨digit, _, rest⟩ := Option.bind_eq_some_iff.1 read
      split_ifs at rest
      · simp only [found_endCode rest, List.suffix_rfl]
      · cases rest
        exact List.suffix_rfl
  | awaitEscape sofar high =>
      simp only [step, mode] at read
      split_ifs at read
      cases read
      exact List.suffix_rfl
  | awaitCode sofar high =>
      simp only [step, mode] at read
      split_ifs at read
      cases read
      exact List.suffix_rfl

theorem LexState.found_run {text : List Char} {state final : LexState}
    (read : text.foldlM LexState.step state = some final) :
    state.found <:+ final.found := by
  induction text generalizing state with
  | nil =>
      cases read
      exact List.suffix_rfl
  | cons c rest inductionHypothesis =>
      rw [List.foldlM_cons] at read
      obtain ⟨next, first, later⟩ := Option.bind_eq_some_iff.1 read
      exact (found_step first).trans (inductionHypothesis later)

/-- A text that opens with a bracket gives lexemes that do. -/
theorem Lexeme.ofChars?_bracket {text : List Char} {lexemes : List Lexeme} {c : Char}
    (bracket : c = '[' ∨ c = '\x7b') (read : ofChars? (c :: text) = some lexemes) :
    ∃ rest, lexemes = .openArray :: rest ∨ lexemes = .openObject :: rest := by
  obtain ⟨opening, isOpening, started⟩ : ∃ opening,
      (opening = .openArray ∨ opening = .openObject) ∧
        LexState.start.step c = some ⟨[opening], .between⟩ := by
    rcases bracket with rfl | rfl
    · exact ⟨.openArray, .inl rfl, rfl⟩
    · exact ⟨.openObject, .inr rfl, rfl⟩
  rw [ofChars?, List.foldlM_cons, started] at read
  obtain ⟨final, run, rest⟩ := Option.bind_eq_some_iff.1 read
  obtain ⟨closed, closing, equal⟩ := Option.bind_eq_some_iff.1 rest
  cases equal
  obtain ⟨later, whole⟩ := (LexState.found_run run).trans (LexState.found_close closing)
  refine ⟨later.reverse, ?_⟩
  rw [← whole]
  rcases isOpening with rfl | rfl
  · left
    simp
  · right
    simp

/-! ## Values -/

/-- Whether the outermost value is an array or an object. -/
def BuildState.IsNested (state : BuildState) : Prop :=
  match state.expected with
  | .nothing json => ∀ text, json ≠ .string text
  | _ => state.opened ≠ []

theorem BuildState.isNested_deliver {json : Json} (compound : ∀ text, json ≠ .string text)
    (opened : List OpenValue) : (deliver opened json).IsNested := by
  cases opened with
  | nil => exact compound
  | cons innermost outer => cases innermost <;> simp [deliver, IsNested]

theorem BuildState.isNested_deliver_of_ne_nil (json : Json) {opened : List OpenValue}
    (some : opened ≠ []) : (deliver opened json).IsNested := by
  cases opened with
  | nil => exact absurd rfl some
  | cons innermost outer => cases innermost <;> simp [deliver, IsNested]

theorem BuildState.isNested_nest {opened : List OpenValue} {value : OpenValue}
    {expected : Expected} {next : BuildState}
    (read : nest? opened value expected = some next)
    (unfinished : ∀ json, expected ≠ .nothing json) : next.IsNested := by
  rw [nest?] at read
  split at read
  · cases read
    cases expected with
    | nothing json => exact absurd rfl (unfinished json)
    | _ => simp [IsNested]
  · cases read

theorem BuildState.isNested_step {state next : BuildState} {lexeme : Lexeme}
    (nested : state.IsNested) (read : state.step lexeme = some next) : next.IsNested := by
  unfold step at read
  split at read
  · next isValue =>
      cases read
      exact isNested_deliver_of_ne_nil _ (by simpa [IsNested, isValue] using nested)
  · next isValue =>
      cases read
      exact isNested_deliver_of_ne_nil _ (by simpa [IsNested, isValue] using nested)
  · exact isNested_nest read (by simp)
  · exact isNested_nest read (by simp)
  · exact isNested_nest read (by simp)
  · exact isNested_nest read (by simp)
  · split at read <;> cases read
    exact isNested_deliver (by simp) _
  · split at read <;> cases read
    simp [IsNested]
  · split at read <;> cases read
    simp [IsNested]
  · split at read <;> cases read
    exact isNested_deliver (by simp [Json.ofMap]) _
  · next isColon =>
      cases read
      simpa [IsNested, isColon] using nested
  · split at read <;> cases read
    · next shape => simp [IsNested, shape]
    · next shape => simp [IsNested, shape]
  · split at read <;> cases read
    exact isNested_deliver (by simp) _
  · split at read <;> cases read
    exact isNested_deliver (by simp [Json.ofMap]) _
  · cases read

theorem BuildState.isNested_run {lexemes : List Lexeme} {state final : BuildState}
    (nested : state.IsNested) (read : lexemes.foldlM BuildState.step state = some final) :
    final.IsNested := by
  induction lexemes generalizing state with
  | nil =>
      cases read
      exact nested
  | cons lexeme rest inductionHypothesis =>
      rw [List.foldlM_cons] at read
      obtain ⟨next, first, later⟩ := Option.bind_eq_some_iff.1 read
      exact inductionHypothesis (isNested_step nested first) later

/-- A text that begins with a bracket or a brace is not read as a string. -/
theorem Json.ofChars?_bracket_ne_string {text : List Char} {c : Char}
    (bracket : c = '[' ∨ c = '\x7b') (content : String) :
    ofChars? (c :: text) ≠ some (.string content) := by
  intro read
  rw [ofChars?] at read
  obtain ⟨lexemes, scanned, rest⟩ := Option.bind_eq_some_iff.1 read
  obtain ⟨final, run, result⟩ := Option.bind_eq_some_iff.1 rest
  have nested : final.IsNested := by
    obtain ⟨later, shape | shape⟩ := Lexeme.ofChars?_bracket bracket scanned
    · rw [shape, List.foldlM_cons] at run
      obtain ⟨next, first, others⟩ := Option.bind_eq_some_iff.1 run
      exact BuildState.isNested_run (BuildState.isNested_nest first (by simp)) others
    · rw [shape, List.foldlM_cons] at run
      obtain ⟨next, first, others⟩ := Option.bind_eq_some_iff.1 run
      exact BuildState.isNested_run (BuildState.isNested_nest first (by simp)) others
  split at result
  · next whole finished =>
      cases result
      rw [BuildState.IsNested, finished] at nested
      exact nested content rfl
  · cases result

end ChatOps
