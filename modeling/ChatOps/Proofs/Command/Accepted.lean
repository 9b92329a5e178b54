import ChatOps.Proofs.Command.Faithful

/-!
# Texts that are commands

Whether a text is a command is seen from its first character and, behind an at sign, from
a colon.  A text that looks like a command is never rejected as prose, since its first
token keeps the sign in front; and what is known of every command that is read from a text
is listed in `ReadFrom`.  Both are put together in `parse_accepts`.
-/

set_option autoImplicit false

namespace ChatOps.Command

open ChatOps.Token

/-! ## The first token -/

/-- The signs that stand in front of commands. -/
def IsSign (c : Char) : Prop := c = '/' ∨ c = '@'

theorem IsSign.bare {c : Char} (sign : IsSign c) : isBare c = true := by
  rcases sign with rfl | rfl <;> decide

theorem sign_of_isCommand {text : String} (looks : isCommand text = true) :
    ∃ c rest, IsSign c ∧ Text.trimStart text.toList = c :: rest := by
  rw [isCommand] at looks
  split at looks
  · next rest shape => exact ⟨'/', rest, .inl rfl, shape⟩
  · next rest shape => exact ⟨'@', rest, .inr rfl, shape⟩
  · cases looks

/-- Blanks at the end are not in front of a character that is not blank. -/
theorem trim_of_trimStart {text rest : List Char} {c : Char} (notBlank : Text.isBlank c = false)
    (shape : Text.trimStart text = c :: rest) : ∃ inner, Text.trim text = c :: inner := by
  obtain ⟨back, backBlank, whole⟩ := Text.exists_trimEnd (Text.trimStart text)
  rw [shape] at whole
  cases trimmed : Text.trimEnd (c :: rest) with
  | nil =>
      rw [trimmed, List.nil_append] at whole
      have blank := backBlank c (by rw [← whole]; exact List.mem_cons_self)
      rw [notBlank] at blank
      cases blank
  | cons d inner =>
      rw [trimmed, List.cons_append, List.cons.injEq] at whole
      refine ⟨inner, ?_⟩
      rw [Text.trim, shape, trimmed, whole.1]

/-- A line that begins with a bare character has a first token that begins with it. -/
theorem tokens_of_bare {c : Char} (bare : isBare c = true) (rest : List Char) :
    ∃ body later, (scan none (c :: rest)).tokens = (c :: body) :: later := by
  rw [scan_bare bare]
  exact ⟨_, _, rfl⟩

/-- A text that looks like a command has a first token, and that begins with a sign. -/
theorem split_of_isCommand {text : String} (looks : isCommand text = true) :
    ∃ c body later, IsSign c ∧
      Token.split (Text.trimmed text) = String.ofList (c :: body) :: later := by
  obtain ⟨c, rest, sign, shape⟩ := sign_of_isCommand looks
  obtain ⟨inner, trimmed⟩ := trim_of_trimStart (isBare_iff.1 sign.bare).1 shape
  obtain ⟨body, later, tokens⟩ := tokens_of_bare sign.bare inner
  refine ⟨c, body, later.map String.ofList, sign, ?_⟩
  rw [Token.split, Text.trimmed, String.toList_ofList, trimmed, tokens, List.map_cons]

theorem ofSlash_ne_notACommand (name : List Char) : ofSlash name ≠ .error .notACommand := by
  rw [ofSlash]
  split <;> simp

theorem ofAddressed_ne_notACommand (text : List Char) :
    ofAddressed text ≠ .error .notACommand := by
  rw [ofAddressed]
  split
  · simp
  · simp only []
    split
    · simp
    · split <;> simp

theorem ofHead_ne_notACommand {c : Char} (sign : IsSign c) (body : List Char) :
    ofHead (String.ofList (c :: body)) ≠ .error .notACommand := by
  rw [ofHead, String.toList_ofList]
  rcases sign with rfl | rfl
  · exact ofSlash_ne_notACommand body
  · exact ofAddressed_ne_notACommand body

/-- Prose is what does not look like a command, and nothing else. -/
theorem parse_eq_notACommand_iff {text : String} :
    parse text = .error .notACommand ↔ isCommand text = false := by
  rw [parse]
  cases looks : isCommand text with
  | false => simp
  | true =>
      obtain ⟨c, body, later, sign, tokens⟩ := split_of_isCommand looks
      have accepted := ofHead_ne_notACommand sign body
      simp only [if_true, tokens, Bool.true_eq_false, iff_false]
      cases reading : ofHead (String.ofList (c :: body)) with
      | ok read => simp [bind, Except.bind]
      | error reason =>
          rw [reading] at accepted
          simpa [bind, Except.bind] using accepted

/-! ## What is read -/

/-- Whether the first token of a text is an at sign and a target in front of its first
colon, which resolves to this address. -/
def Targets (text : String) (address : Address) : Prop :=
  ∃ head rest target behind, Token.split (Text.trimmed text) = head :: rest ∧
    head.toList = '@' :: (target ++ ':' :: behind) ∧ ':' ∉ target ∧
    address = Address.resolve (String.ofList target)

/-- What is known of a command that is read from a text. -/
structure ReadFrom (text : String) (command : Command) : Prop where
  raw : command.raw = Text.trimmed text
  name : command.name ≠ ""
  domain : command.kind = .domain ↔ ∃ place, command.domain = some place
  owner : ∀ place, command.domain = some place → command.agent = place.name
  agent : command.kind = .agent → IsAgent command.agent
  colon : command.kind ≠ .system → ':' ∉ command.name.toList
  sub : command.kind ≠ .system → command.sub ≠ some ""
  target : command.kind ≠ .system → Targets text command.address
  system : command.kind = .system ↔ command.sigil = .slash
  internal : command.kind = .system → command.sub = none ∧ command.agent ≠ ""
  flags : ∀ key ∈ command.flags.keys, key ≠ ""
  options : ∀ key ∈ command.options.keys,
    isIdentifier key.toList = true ∧ isDashed key = false

theorem address_ofTarget (target name : String) :
    (ofTarget target name).address = Address.resolve target := by
  cases known : Domain.named? target with
  | some place =>
      simp only [ofTarget, Address.resolve, known]
      rfl
  | none =>
      simp only [ofTarget, Address.resolve, known]
      rfl

theorem address_withSub (command : Command) (sub : Option String) :
    { command with sub := sub }.address = command.address := rfl

theorem address_of_ofAddressed {text : List Char} {command : Command}
    (read : ofAddressed text = .ok command) :
    ∃ target behind, text = target ++ ':' :: behind ∧ ':' ∉ target ∧
      command.address = Address.resolve (String.ofList target) := by
  rw [ofAddressed] at read
  cases cut : Text.cut? ':' text with
  | none =>
      rw [cut] at read
      cases read
  | some halves =>
      obtain ⟨target, behind⟩ := halves
      obtain ⟨whole, absent⟩ := Text.cut?_eq_some cut
      refine ⟨target, behind, whole, absent, ?_⟩
      simp only [cut] at read
      split at read
      · cases read
      · split at read
        · cases read
        · rw [← Except.ok.inj read, address_withSub, address_ofTarget]

/-- What is not read as a slash command is read from a target. -/
theorem targets_of_parse {text : String} {command : Command}
    (read : parse text = .ok command) (addressed : command.kind ≠ .system) :
    Targets text command.address := by
  obtain ⟨_, head, rest, inner, tokens, reading, equal⟩ := parse_eq_ok_iff.1 read
  have sameAddress : command.address = inner.address := by
    rw [equal]
    rfl
  have sameKind : command.kind = inner.kind := by
    rw [equal]
    rfl
  rw [ofHead] at reading
  split at reading
  · next name shape =>
      rw [ofSlash] at reading
      split at reading
      · cases reading
      · rw [sameKind, ← Except.ok.inj reading] at addressed
        exact absurd rfl addressed
  · next address shape =>
      obtain ⟨target, behind, whole, absent, resolved⟩ := address_of_ofAddressed reading
      refine ⟨head, rest, target, behind, tokens, ?_, absent, sameAddress.trans resolved⟩
      rw [shape, whole]
  · cases reading

theorem slashAgent_ne_empty (name : List Char) : slashAgent name ≠ "" := by
  rw [slashAgent]
  split
  · decide
  · next agent behind notEmpty _ =>
      intro empty
      have noChars := congrArg String.toList empty
      rw [Text.asciiLower, String.toList_ofList, String.toList_ofList, String.toList_empty,
        List.map_eq_nil_iff] at noChars
      exact notEmpty noChars
  · decide

theorem ReadFrom.of_parse {text : String} {command : Command}
    (read : parse text = .ok command) : ReadFrom text command := by
  have shaped := Shaped.of_parse read
  have target := targets_of_parse read
  obtain ⟨_, head, rest, inner, _, _, equal⟩ := parse_eq_ok_iff.1 read
  have raw : command.raw = Text.trimmed text := by
    rw [equal]
    rfl
  have flags : ∀ key ∈ command.flags.keys, key ≠ "" := by
    intro key member
    obtain ⟨flag, inFlags, rfl⟩ := List.mem_map.1 member
    exact shaped.flags flag inFlags
  have options : ∀ key ∈ command.options.keys,
      isIdentifier key.toList = true ∧ isDashed key = false := by
    intro key member
    obtain ⟨option, inOptions, rfl⟩ := List.mem_map.1 member
    exact shaped.options option inOptions
  cases shaped.head with
  | domain place sigil kind domain agent segment sub =>
      refine ⟨raw, segment.1, ?_, ?_, ?_, fun _ => segment.2, fun _ => sub, target, ?_, ?_,
        flags, options⟩
      all_goals simp [sigil, kind, domain, agent]
  | agent sigil kind domain agent segment sub =>
      refine ⟨raw, segment.1, ?_, ?_, fun _ => agent, fun _ => segment.2, fun _ => sub, target,
        ?_, ?_, flags, options⟩
      all_goals simp [sigil, kind, domain]
  | system sigil kind domain agent name sub =>
      have owned : command.agent ≠ "" := by
        rw [agent]
        exact slashAgent_ne_empty _
      refine ⟨raw, name, ?_, ?_, ?_, ?_, ?_, ?_, ?_, fun _ => ⟨sub, owned⟩, flags, options⟩
      all_goals simp [sigil, kind, domain]

/-- A text is rejected as prose just if it does not look like a command, and what it is
read as keeps to what is promised of commands. -/
theorem parse_accepts (text : String) :
    (parse text = .error .notACommand ↔ isCommand text = false) ∧
      ∀ command, parse text = .ok command → ReadFrom text command :=
  ⟨parse_eq_notACommand_iff, fun _ read => .of_parse read⟩

/-- A target with blanks and capitals around an agent, in a token with an escaped quote. -/
theorem parse_accepts_agent :
    ∃ command, parse "  @\" Bot \":run\\\"now:a:b -n=1 -k=2 -v x\t" = .ok command ∧
      command.kind = .agent ∧
      ReadFrom "  @\" Bot \":run\\\"now:a:b -n=1 -k=2 -v x\t" command := by
  have accepted : (parse "  @\" Bot \":run\\\"now:a:b -n=1 -k=2 -v x\t").toOption.any
      (fun command => command.kind == .agent && command.sub == some "a:b") = true := by
    decide +kernel
  cases read : parse "  @\" Bot \":run\\\"now:a:b -n=1 -k=2 -v x\t" with
  | ok command =>
      rw [read] at accepted
      simp only [Except.toOption, Option.any_some, Bool.and_eq_true, beq_iff_eq] at accepted
      exact ⟨command, rfl, accepted.1, (parse_accepts _).2 command read⟩
  | error reason =>
      rw [read] at accepted
      cases accepted

end ChatOps.Command
