import ChatOps.Generation
import ChatOps.Proofs.Command.Inference
import ChatOps.Proofs.IssueKey.Form

/-!
# Lines of generated commands

A template is filled for certain texts and flags (`filling?`).  What is written is a
line of words, the first of which is the key of the template (`ofTemplate?_eq`), and
so it is read as a command of that name, whatever the texts are (`parse_line`).
-/

set_option autoImplicit false

namespace ChatOps

open ChatOps.Token

/-! ## Keys as heads -/

namespace Template

/-- Where the command of a template goes.  Builds go to an agent. -/
def address : Template → Address
  | .commit => .domain .git
  | .push => .domain .git
  | .pull => .domain .git
  | .checkout => .domain .git
  | .branch => .domain .git
  | .issue => .domain .jira
  | .build => .agent "swdp"
  | .load => .domain .pocket
  | .pocketSearch => .domain .pocket
  | .docSearch => .domain .doc

def commandName : Template → String
  | .commit => "commit"
  | .push => "push"
  | .pull => "pull"
  | .checkout => "checkout"
  | .branch => "branch"
  | .issue => "issue"
  | .build => "build"
  | .load => "load"
  | .pocketSearch => "search"
  | .docSearch => "search"

theorem qualify_eq (template : Template) :
    template.address.qualify template.commandName = "@" ++ template.key := by
  cases template <;> decide

/-- Whether a command has the address and the name of a template's key. -/
structure Heads (template : Template) (command : Command) : Prop where
  address : command.address = template.address
  name : command.name = template.commandName
  sub : command.sub = none

theorem ofTarget_address (template : Template) :
    template.Heads (Command.ofTarget template.address.display template.commandName) := by
  have git : Domain.named? "git" = some .git := by decide
  have jira : Domain.named? "jira" = some .jira := by decide
  have pocket : Domain.named? "pocket" = some .pocket := by decide
  have doc : Domain.named? "doc" = some .doc := by decide
  have swdp : Domain.named? "swdp" = none := by decide
  have lower : Text.asciiLower (Text.trimmed "swdp") = "swdp" := by decide
  cases template <;>
    simp only [address, commandName, Address.display, Domain.name, Command.ofTarget, git,
      jira, pocket, doc, swdp, lower] <;>
    exact ⟨rfl, rfl, rfl⟩

/-- The key of a template as the first word of a line. -/
def headWord (template : Template) : Word := ⟨'@' :: template.key.toList, none⟩

theorem ofHead_headWord (template : Template) :
    ∃ read, Command.ofHead template.headWord.token = .ok read ∧ template.Heads read := by
  have ordinary : template.address.isCore = false := by cases template <;> decide
  have colon : ':' ∉ template.address.display.toList := by cases template <;> decide
  have nonempty : Text.trim template.address.display.toList ≠ [] := by
    cases template <;> decide
  have segment : Command.IsSegment template.commandName := by
    cases template <;> exact ⟨by decide, by decide⟩
  have written : template.headWord.token =
      Command.headText template.address template.commandName none := by
    rw [Command.headText, template.qualify_eq, ← String.toList_inj]
    simp [headWord, Word.token, Word.chars]
  have noSub : (none : Option String) ≠ some "" := by decide
  have reading :=
    Command.ofHead_headText template.address ordinary colon nonempty segment noSub
  rw [← written] at reading
  have heads := template.ofTarget_address
  -- Only its fields matter; the look-up of the domain must not be unfolded again.
  generalize Command.ofTarget template.address.display template.commandName = target at *
  exact ⟨_, reading, heads.address, heads.name, rfl⟩

end Template

/-! ## Words on a line -/

namespace Token

theorem line_eq_flatMap (head : Word) (rest : List Word) :
    line (head :: rest) = head.source ++ rest.flatMap fun word => ' ' :: word.source := by
  induction rest generalizing head with
  | nil => simp [line_singleton]
  | cons next others inductionHypothesis =>
      rw [line_cons head (List.cons_ne_nil next others), inductionHypothesis,
        List.flatMap_cons, List.cons_append]

theorem Word.IsLegible.inked {word : Word} (legible : word.IsLegible)
    (noText : word.text = none) : ∃ c ∈ word.lead, Text.isBlank c = false := by
  obtain ⟨c, later, lead⟩ := List.exists_cons_of_ne_nil (legible.present noText)
  have inLead : c ∈ word.lead := by simp [lead]
  exact ⟨c, inLead, (isBare_iff.1 (legible.bare c inLead)).1⟩

theorem trim_line {words : List Word} (nonempty : words ≠ [])
    (legible : ∀ word ∈ words, word.IsLegible)
    (first : ∀ c ∈ (line words).head?, Text.isBlank c = false) :
    Text.trim (line words) = line words := by
  have kept := trimEnd_line (fun word member => (legible word member).inked) [] nonempty
  rw [cutLast_of_legible (Command.legibleLine_of_forall nonempty legible),
    List.nil_append] at kept
  rw [Text.trim, Text.trimStart_of_head first, kept]

end Token

namespace Command

/-- What stands behind the head of a command. -/
def arguments (command : Command) : Arguments :=
  ⟨command.args, command.flags, command.options⟩

/-- A legible line that begins with an address is read word by word. -/
theorem parse_line {head : Word} {rest : List Word} {read : Command}
    (sign : ∃ address, head.lead = '@' :: address ∧ ':' ∈ address)
    (legible : ∀ word ∈ head :: rest, word.IsLegible)
    (reading : ofHead head.token = .ok read) :
    parse (String.ofList (line (head :: rest))) =
      .ok (read.withArguments (Arguments.ofTokens (rest.map Word.token))
        (String.ofList (line (head :: rest)))) := by
  have nonempty := List.cons_ne_nil head rest
  have legibleLine := legibleLine_of_forall nonempty legible
  obtain ⟨address, shape, colon⟩ := sign
  obtain ⟨behind, whole⟩ : ∃ behind, line (head :: rest) = '@' :: (address ++ behind) := by
    rw [line_eq_flatMap, Word.source, shape, List.cons_append, List.cons_append,
      List.append_assoc]
    exact ⟨_, rfl⟩
  have first : ∀ c ∈ (line (head :: rest)).head?, Text.isBlank c = false := by
    intro c member
    rw [whole] at member
    cases member
    decide
  have trimmed : Text.trimmed (String.ofList (line (head :: rest))) =
      String.ofList (line (head :: rest)) := by
    rw [Text.trimmed, String.toList_ofList, trim_line nonempty legible first]
  apply parse_eq_ok_iff.2
  refine ⟨?_, head.token, rest.map Word.token, read, ?_, reading, ?_⟩
  · rw [isCommand, String.toList_ofList, Text.trimStart_of_head first, whole]
    simp [colon]
  · rw [trimmed, Token.split, String.toList_ofList, tokens_line legibleLine, List.map_map]
    rfl
  · rw [trimmed]

end Command

namespace Generation

/-! ## Fillings -/

/-- What a template is filled for: texts that stand by themselves, and flags. -/
structure Filling where
  texts : List String
  flags : List (String × Json)

/-- The arguments that say what a template was filled for. -/
def Filling.arguments (filling : Filling) : Arguments :=
  .ofTexts filling.texts filling.flags

def message? (context : Context) : Option String :=
  commitMessage? ((context.git.map WorkingCopy.changedFiles).getD []) context.activeFile

def nextBranch? (context : Context) : Option String :=
  context.git.bind fun copy => (checkoutOrder copy.branches).head?

def newBranch (context : Context) (now : Instant) : String :=
  branchName context.currentBranchName? (context.git.bind WorkingCopy.userName) now

/-- A branch that follows no other is set to follow the one it is pushed to. -/
def remoteFilling (branch : Branch) : Filling where
  texts := ["origin", branch.name]
  flags := if branch.tracked.isNone then [("set-upstream", .bool true)] else []

def buildFilling (chosen : BuildTarget) : Filling where
  texts := []
  flags :=
    ("target", .string chosen.target) ::
      if chosen.watch then [("watch", .bool true)] else []

/-- What a template is filled for in a context. -/
def filling? (template : Template) (context : Context) (now : Instant) :
    Option Filling :=
  match template with
  | .commit => (message? context).map fun message => ⟨[], [("m", .string message)]⟩
  | .push => context.currentBranch?.map remoteFilling
  | .pull => context.currentBranch?.map remoteFilling
  | .checkout => (nextBranch? context).map fun name => ⟨[name], []⟩
  | .branch => some ⟨[newBranch context now], []⟩
  | .issue => (issueKey? context).map fun key => ⟨[key], []⟩
  | .build => some (buildFilling (buildTarget context.currentBranchName?))
  | .load => (repository? context).map fun name => ⟨[name], []⟩
  | .pocketSearch => (repository? context).map fun name => ⟨[name], []⟩
  | .docSearch => (topic? context).map fun topic => ⟨[topic], []⟩

/-! ## Filled templates as lines -/

/-- The words behind the key.  The message of a commit stands behind a short flag. -/
def words (template : Template) (filling : Filling) : List Word :=
  match template with
  | .commit =>
      filling.flags.flatMap fun flag => [⟨'-' :: flag.1.toList, none⟩, argWord flag.2]
  | _ =>
      filling.texts.map (fun text => argWord (.string text)) ++ filling.flags.map flagWord

/-- The text of a template that is filled. -/
def lineFor (template : Template) (filling : Filling) : String :=
  String.ofList (line (template.headWord :: words template filling))

/-- A template is filled with words if every word is written with a blank before it. -/
theorem fill_eq_lineFor {template : Template} {values : Json} {filling : Filling}
    (behind : (String.join (template.arguments.map
        (TemplatePiece.render fun name => values.member? name))).toList =
      (words template filling).flatMap fun word => ' ' :: word.source) :
    template.fill values = lineFor template filling := by
  rw [lineFor, line_eq_flatMap, ← behind, ← String.toList_inj]
  simp [Template.fill, Template.render, Template.pieces, TemplatePiece.render,
    Template.headWord, Word.source, String.toList_join]

theorem member?_ofMembers (members : List (String × Json)) (name : String) :
    (Json.ofMembers members).member? name = (SortedMap.ofList members).get? name := rfl

theorem member?_single (name : String) (value : Json) :
    (Json.ofMembers [(name, value)]).member? name = some value := by
  simp [member?_ofMembers, SortedMap.ofList, SortedMap.insertMany, SortedMap.get?_insert]

theorem member?_first {first second : String} (different : second ≠ first)
    (value later : Json) :
    (Json.ofMembers [(first, value), (second, later)]).member? first = some value := by
  simp [member?_ofMembers, SortedMap.ofList, SortedMap.insertMany, SortedMap.get?_insert,
    different]

theorem member?_second (first second : String) (value later : Json) :
    (Json.ofMembers [(first, value), (second, later)]).member? second = some later := by
  simp [member?_ofMembers, SortedMap.ofList, SortedMap.insertMany, SortedMap.get?_insert]

theorem writeChars_of_unquoted {text : List Char} (unquoted : needsQuotes text = false) :
    writeChars text = text := by
  rw [writeChars, unquoted]
  rfl

theorem fill_commit (message : String) :
    Template.commit.fill (Json.ofMembers [("message", .string message)]) =
      lineFor .commit ⟨[], [("m", .string message)]⟩ := by
  apply fill_eq_lineFor
  simp [Template.arguments, TemplatePiece.render, member?_single, Json.templateText,
    Token.write, String.join, words, argWord, Output.plainText, Word.source]

theorem fill_remote {template : Template} (remote : template = .push ∨ template = .pull)
    (branch : Branch) :
    template.fill (Json.ofMembers (remoteBranch branch)) =
      lineFor template (remoteFilling branch) := by
  have origin := writeChars_of_unquoted
    (show needsQuotes ['o', 'r', 'i', 'g', 'i', 'n'] = false by decide)
  apply fill_eq_lineFor
  rcases remote with rfl | rfl <;> cases untracked : branch.tracked.isNone <;>
    simp [untracked, origin, Template.arguments, TemplatePiece.render, remoteBranch,
      member?_first, member?_second, Json.templateText, Json.isTrue, Token.write, String.join,
      words, remoteFilling, argWord, flagWord, Output.plainText, Word.source]

theorem fill_token {template : Template} {name : String}
    (blanks : template.arguments = [.text " ", .token name]) (text : String) :
    template.fill (Json.ofMembers [(name, .string text)]) = lineFor template ⟨[text], []⟩ := by
  have words : words template ⟨[text], []⟩ = [argWord (.string text)] := by
    cases template <;> first | rfl | simp [Template.arguments] at blanks
  apply fill_eq_lineFor
  rw [blanks, words]
  simp [TemplatePiece.render, member?_single, Json.templateText, Token.write, String.join,
    argWord, Output.plainText, Word.source]

theorem fill_issue {key : String} (unquoted : needsQuotes key.toList = false) :
    Template.issue.fill (Json.ofMembers [("key", .string key)]) =
      lineFor .issue ⟨[key], []⟩ := by
  apply fill_eq_lineFor
  simp [Template.arguments, TemplatePiece.render, member?_single, Json.templateText,
    String.join, words, argWord, Output.plainText, Word.source,
    writeChars_of_unquoted unquoted]

theorem fill_build {chosen : BuildTarget}
    (unquoted : needsQuotes chosen.target.toList = false) :
    Template.build.fill (Json.ofMembers
        [("target", .string chosen.target), ("watch", .bool chosen.watch)]) =
      lineFor .build (buildFilling chosen) := by
  apply fill_eq_lineFor
  cases watched : chosen.watch <;>
    simp [watched, Template.arguments, TemplatePiece.render, member?_first, member?_second,
      Json.templateText, Json.isTrue, String.join, words, buildFilling, flagWord,
      Output.plainText, Word.source, writeChars_of_unquoted unquoted]

/-- Everything that builds are for. -/
def targets : List String := ["local", "layered", "all"]

theorem target_mem (branch : Option String) : (buildTarget branch).target ∈ targets := by
  unfold buildTarget
  split
  · decide
  · split
    · decide
    · split
      · decide
      · split <;> decide

theorem needsQuotes_buildTarget (branch : Option String) :
    needsQuotes (buildTarget branch).target.toList = false := by
  have unquoted : ∀ target ∈ targets, needsQuotes target.toList = false := by decide
  exact unquoted _ (target_mem branch)

theorem isKey_of_issueKey? {context : Context} {key : String}
    (found : issueKey? context = some key) : IssueKey.IsKey key.toList := by
  rw [issueKey?] at found
  split at found
  · next inBranch =>
      cases found
      obtain ⟨branch, _, here⟩ := Option.bind_eq_some_iff.1 inBranch
      exact IssueKey.isKey_of_ofText? here
  · obtain ⟨copy, _, here⟩ := Option.bind_eq_some_iff.1 found
    exact IssueKey.isKey_of_ofCommits? here

theorem needsQuotes_issueKey? {context : Context} {key : String}
    (found : issueKey? context = some key) : needsQuotes key.toList = false := by
  have isKey := isKey_of_issueKey? found
  exact needsQuotes_eq_false_iff.2 ⟨isKey.ne_nil, fun c member => (isKey.bare c member).1⟩

theorem ofTemplate?_of_token {template : Template} {context : Context} {now : Instant}
    {name : String} {text : Option String}
    (blanks : template.arguments = [.text " ", .token name])
    (values : values? template context now = oneValue name text) :
    ofTemplate? template context now =
      (text.map fun given => ⟨[given], []⟩).map (lineFor template) := by
  rw [ofTemplate?, values, oneValue, Option.map_map, Option.map_map]
  apply Option.map_congr
  intro given _
  exact fill_token blanks given

/-- A template is filled with the line of what it is filled for. -/
theorem ofTemplate?_eq (template : Template) (context : Context) (now : Instant) :
    ofTemplate? template context now =
      (filling? template context now).map (lineFor template) := by
  cases template with
  | commit =>
      simp only [ofTemplate?, values?, filling?, oneValue, Option.map_map,
        Function.comp_def, fill_commit, message?]
  | push =>
      simp only [ofTemplate?, values?, filling?, Option.map_map, Function.comp_def,
        fill_remote (.inl rfl)]
  | pull =>
      simp only [ofTemplate?, values?, filling?, Option.map_map, Function.comp_def,
        fill_remote (.inr rfl)]
  | checkout => exact ofTemplate?_of_token rfl rfl
  | branch =>
      have values : values? .branch context now =
          oneValue "name" (some (newBranch context now)) := rfl
      exact ofTemplate?_of_token rfl values
  | issue =>
      cases found : issueKey? context with
      | none => simp [ofTemplate?, values?, filling?, oneValue, found]
      | some key =>
          simp [ofTemplate?, values?, filling?, oneValue, found,
            fill_issue (needsQuotes_issueKey? found)]
  | build =>
      simp only [ofTemplate?, values?, filling?, Option.map_some,
        fill_build (needsQuotes_buildTarget _)]
  | load => exact ofTemplate?_of_token rfl rfl
  | pocketSearch => exact ofTemplate?_of_token rfl rfl
  | docSearch => exact ofTemplate?_of_token rfl rfl

/-! ## Reading -/

theorem flag_of_remoteFilling {branch : Branch} {flag : String × Json}
    (member : flag ∈ (remoteFilling branch).flags) : flag = ("set-upstream", .bool true) := by
  rw [remoteFilling] at member
  split at member
  · exact List.mem_singleton.1 member
  · cases member

theorem flag_of_buildFilling {chosen : BuildTarget} {flag : String × Json}
    (member : flag ∈ (buildFilling chosen).flags) :
    flag = ("target", .string chosen.target) ∨ flag = ("watch", .bool true) := by
  rw [buildFilling] at member
  rcases List.mem_cons.1 member with target | later
  · exact .inl target
  · split at later
    · exact .inr (List.mem_singleton.1 later)
    · cases later

theorem isPlain_of_filling? {template : Template} {context : Context} {now : Instant}
    {filling : Filling} (filled : filling? template context now = some filling) :
    ∀ flag ∈ filling.flags, Command.IsPlain flag.1 := by
  have message : Command.IsPlain "m" := .of_all (by decide) (by decide)
  have upstream : Command.IsPlain "set-upstream" := .of_all (by decide) (by decide)
  have target : Command.IsPlain "target" := .of_all (by decide) (by decide)
  have watch : Command.IsPlain "watch" := .of_all (by decide) (by decide)
  intro flag member
  cases template with
  | commit =>
      obtain ⟨text, _, rfl⟩ := Option.map_eq_some_iff.1 filled
      rw [List.mem_singleton.1 member]
      exact message
  | push =>
      obtain ⟨branch, _, rfl⟩ := Option.map_eq_some_iff.1 filled
      rw [flag_of_remoteFilling member]
      exact upstream
  | pull =>
      obtain ⟨branch, _, rfl⟩ := Option.map_eq_some_iff.1 filled
      rw [flag_of_remoteFilling member]
      exact upstream
  | build =>
      cases filled
      rcases flag_of_buildFilling member with rfl | rfl
      · exact target
      · exact watch
  | branch =>
      cases filled
      cases member
  | _ =>
      obtain ⟨text, _, rfl⟩ := Option.map_eq_some_iff.1 filled
      cases member

theorem isLegible_words (template : Template) {filling : Filling}
    (plain : ∀ flag ∈ filling.flags, Command.IsPlain flag.1) :
    ∀ word ∈ words template filling, word.IsLegible := by
  have dash : isBare '-' = true := by decide
  have ordinary : ∀ word ∈ filling.texts.map (fun text => argWord (.string text)) ++
      filling.flags.map flagWord, word.IsLegible := by
    intro word member
    rcases List.mem_append.1 member with inTexts | inFlags
    · obtain ⟨text, _, rfl⟩ := List.mem_map.1 inTexts
      exact Command.isLegible_argWord _
    · obtain ⟨flag, given, rfl⟩ := List.mem_map.1 inFlags
      exact Command.isLegible_flagWord (plain flag given)
  cases template with
  | commit =>
      intro word member
      obtain ⟨flag, inFlags, inPair⟩ := List.mem_flatMap.1 member
      simp only [List.mem_cons, List.not_mem_nil, or_false] at inPair
      rcases inPair with rfl | rfl
      · exact ⟨by simpa [dash] using (plain flag inFlags).bare, by simp⟩
      · exact Command.isLegible_argWord _
  | _ => exact ordinary

/-- Texts and flags are the tokens behind every key but that of a commit. -/
theorem tokens_words {template : Template} (ordinary : template ≠ .commit)
    (texts : List String) (flags : List (String × Json)) :
    (words template ⟨texts, flags⟩).map Word.token =
      texts ++ flags.map fun flag => (flagWord flag).token := by
  have both : ((texts.map fun text => argWord (.string text)) ++ flags.map flagWord).map
      Word.token = texts ++ flags.map fun flag => (flagWord flag).token := by
    simp [Function.comp_def, token_argWord, Output.plainText]
  cases template with
  | commit => exact absurd rfl ordinary
  | _ => exact both

/-- A text behind texts that are read as themselves is read as itself just if it looks
like nothing else. -/
theorem ofTokens_words_iff {template : Template} (ordinary : template ≠ .commit)
    {before : List String} {text : String} {flags : List (String × Json)}
    (verbatim : ∀ token ∈ before, isDashed token = false ∧ IsVerbatim token)
    (plain : isDashed text = false) (kept : ∀ flag ∈ flags, Arguments.IsKeptFlag flag) :
    Arguments.ofTokens ((words template ⟨before ++ [text], flags⟩).map Word.token) =
        .ofTexts (before ++ [text]) flags ↔
      IsVerbatim text := by
  rw [tokens_words ordinary, List.append_assoc, List.singleton_append]
  exact Arguments.ofTokens_eq_iff verbatim plain kept

theorem isLegible_headWord (template : Template) : template.headWord.IsLegible := by
  have bare : template.headWord.lead.all isBare = true := by
    cases template <;> decide +kernel
  exact ⟨List.all_eq_true.1 bare, by simp [Template.headWord]⟩

/-- What is generated is read as the command of the key, with what is read behind it. -/
theorem parse_lineFor (template : Template) {filling : Filling}
    (plain : ∀ flag ∈ filling.flags, Command.IsPlain flag.1) :
    ∃ command, Command.parse (lineFor template filling) = .ok command ∧
      template.Heads command ∧
      command.arguments = Arguments.ofTokens ((words template filling).map Word.token) := by
  obtain ⟨read, reading, heads⟩ := template.ofHead_headWord
  have sign : ∃ address, template.headWord.lead = '@' :: address ∧ ':' ∈ address := by
    refine ⟨template.key.toList, rfl, ?_⟩
    cases template <;> decide
  have legible : ∀ word ∈ template.headWord :: words template filling, word.IsLegible :=
    List.forall_mem_cons.2 ⟨isLegible_headWord template, isLegible_words template plain⟩
  exact ⟨_, Command.parse_line sign legible reading, ⟨heads.address, heads.name, heads.sub⟩,
    rfl⟩

end Generation

end ChatOps
