import ChatOps.Assistant

/-!
# Refreshing

The context is refreshed one integration after another, and any of them may have nothing
to say: its plugin may be missing, and a repository may refuse one of its queries.  An
integration is then left out, and its part of the context stays as it is.  Otherwise its
part is replaced as a whole.  Neither concerns another integration
(`refreshContexts_alone`).
-/

set_option autoImplicit false

namespace ChatOps

/-- One more event is either kept or makes the reader miss one. -/
theorem Feed.missed_add_length_push {Event : Type} (feed : Feed Event) (event : Event) :
    (feed.push event).missed + (feed.push event).events.length =
      feed.missed + feed.events.length + 1 := by
  simp only [push, excess, newest, List.length_drop, List.length_append,
    List.length_singleton]
  omega

/-! ## Repositories -/

namespace Repository

/-- What is seen of the working copy, with at most so many commits. -/
def view (repository : Repository) (commitLimit : Nat) : WorkingCopy :=
  { repository.copy with recentCommits := repository.copy.recentCommits.take commitLimit }

variable {repository : Repository}

/-- One failing query fails everything that comes after it. -/
theorem ask_bind_eq_ok_iff {Answer Result : Type} {query : RepositoryQuery} {answer : Answer}
    {next : Answer → Except GitError Result} {result : Result} :
    (repository.ask query answer >>= next) = .ok result ↔
      repository.error? query = none ∧ next answer = .ok result := by
  rw [ask]
  cases repository.error? query with
  | none => exact (and_iff_right rfl).symm
  | some error =>
      constructor
      · intro failed
        cases failed
      · rintro ⟨answered, _⟩
        cases answered

theorem inspect_eq_ok_iff {limit : Nat} {copy : WorkingCopy} :
    repository.inspect limit = .ok copy ↔
      (∀ query, repository.error? query = none) ∧ copy = repository.view limit := by
  simp only [inspect, ask_bind_eq_ok_iff]
  constructor
  · rintro ⟨branches, changedFiles, userName, remoteUrl, commits, seen⟩
    refine ⟨fun query => ?_, (Except.ok.inj seen).symm⟩
    cases query with
    | branches => exact branches
    | changedFiles => exact changedFiles
    | userName => exact userName
    | remoteUrl => exact remoteUrl
    | commits => exact commits
  · rintro ⟨answered, rfl⟩
    exact ⟨answered _, answered _, answered _, answered _, answered _, rfl⟩

end Repository

/-! ## Parts of the context -/

/-- What the context holds of one integration. -/
inductive Part where
  | copy (copy : WorkingCopy)
  | connection (connection : Connection)
  deriving DecidableEq

/-- The part of an integration, if it is known. -/
def Context.part? (context : Context) : Integration → Option Part
  | .git => context.git.map .copy
  | .jira => context.jira.map .connection
  | .build => context.build.map .connection
  | .pocket => context.pocket.map .connection

theorem Context.part?_git_inj {before after : Context}
    (same : after.part? .git = before.part? .git) : after.git = before.git :=
  Option.map_injective (fun _ _ same => Part.copy.inj same) same

/-- The client of the first plugin for version control. -/
def PluginStore.repository? (store : PluginStore) : Option Repository :=
  (store.ofDomain? .git).bind Plugin.repository

namespace Assistant

/-- The present state of an integration, where it can be had: a plugin is there or, for the
working copy, a client that answers every query. -/
inductive Present (assistant : Assistant) (store : PluginStore) (now : Instant) :
    Integration → Part → Prop where
  | git {repository : Repository} (client : store.repository? = some repository)
      (answers : ∀ query, repository.error? query = none) :
      Present assistant store now .git
        (.copy (repository.view assistant.settings.commitLimit))
  | jira {plugin : Plugin} (found : store.ofDomain? .jira = some plugin) :
      Present assistant store now .jira
        (.connection
          ⟨decide (plugin.availability = .ready), now, assistant.recentKey? now⟩)
  | build {plugin : Plugin} (found : store.get? Integration.build.display = some plugin) :
      Present assistant store now .build
        (.connection ⟨decide (plugin.availability = .ready), now, none⟩)
  | pocket {plugin : Plugin} (found : store.ofDomain? .pocket = some plugin) :
      Present assistant store now .pocket
        (.connection ⟨decide (plugin.availability = .ready), now, none⟩)

variable {assistant : Assistant} {store : PluginStore} {now : Instant}
  {before after : Context} {integration : Integration}

theorem Present.unique {part other : Part}
    (present : assistant.Present store now integration part)
    (otherPresent : assistant.Present store now integration other) : part = other := by
  cases present with
  | git client _ =>
      cases otherPresent with
      | git otherClient _ =>
          cases client.symm.trans otherClient
          rfl
  | jira found =>
      cases otherPresent with
      | jira otherFound =>
          cases found.symm.trans otherFound
          rfl
  | build found =>
      cases otherPresent with
      | build otherFound =>
          cases found.symm.trans otherFound
          rfl
  | pocket found =>
      cases otherPresent with
      | pocket otherFound =>
          cases found.symm.trans otherFound
          rfl

/-! ## One integration -/

/-- A context in which one part is new and everything else is as it was. -/
structure Replaced (before after : Context) (integration : Integration) (part : Part) :
    Prop where
  new : after.part? integration = some part
  others : ∀ other, other ≠ integration → after.part? other = before.part? other
  activeFile : after.activeFile = before.activeFile

theorem replaced_of_refreshed?
    (refreshed : assistant.refreshed? store now before integration = some after) :
    ∃ part, assistant.Present store now integration part ∧
      Replaced before after integration part := by
  cases integration with
  | git =>
      obtain ⟨plugin, found, refreshed⟩ := Option.bind_eq_some_iff.1 refreshed
      obtain ⟨repository, client, refreshed⟩ := Option.bind_eq_some_iff.1 refreshed
      cases seen : repository.inspect assistant.settings.commitLimit with
      | error reason =>
          rw [seen] at refreshed
          cases refreshed
      | ok copy =>
          rw [seen] at refreshed
          cases refreshed
          obtain ⟨answers, rfl⟩ := Repository.inspect_eq_ok_iff.1 seen
          refine ⟨_, .git (Option.bind_eq_some_iff.2 ⟨plugin, found, client⟩) answers,
            rfl, ?_, rfl⟩
          intro other different
          cases other with
          | git => exact absurd rfl different
          | jira | build | pocket => rfl
  | jira =>
      obtain ⟨plugin, found, rfl⟩ := Option.map_eq_some_iff.1 refreshed
      refine ⟨_, .jira found, rfl, ?_, rfl⟩
      intro other different
      cases other with
      | jira => exact absurd rfl different
      | git | build | pocket => rfl
  | build =>
      obtain ⟨plugin, found, rfl⟩ := Option.map_eq_some_iff.1 refreshed
      refine ⟨_, .build found, rfl, ?_, rfl⟩
      intro other different
      cases other with
      | build => exact absurd rfl different
      | git | jira | pocket => rfl
  | pocket =>
      obtain ⟨plugin, found, rfl⟩ := Option.map_eq_some_iff.1 refreshed
      refine ⟨_, .pocket found, rfl, ?_, rfl⟩
      intro other different
      cases other with
      | pocket => exact absurd rfl different
      | git | jira | build => rfl

theorem refreshed?_of_present {part : Part}
    (present : assistant.Present store now integration part) (context : Context) :
    ∃ after, assistant.refreshed? store now context integration = some after := by
  cases present with
  | @git repository client answers =>
      obtain ⟨plugin, found, client⟩ := Option.bind_eq_some_iff.1 client
      have seen : repository.inspect assistant.settings.commitLimit =
          .ok (repository.view assistant.settings.commitLimit) :=
        Repository.inspect_eq_ok_iff.2 ⟨answers, rfl⟩
      refine ⟨{ context with git := some (repository.view assistant.settings.commitLimit) }, ?_⟩
      simp [refreshed?, found, client, seen]
  | jira found | build found | pocket found => exact ⟨_, by rw [refreshed?, found]; rfl⟩

/-! ## All integrations -/

/-- The outcome of refreshing several integrations: which of them were refreshed, and what
that did to each part of the context. -/
structure Outcome (assistant : Assistant) (store : PluginStore) (now : Instant)
    (before : Context) (integrations : List Integration) (after : Context)
    (refreshed : List Integration) : Prop where
  order : refreshed.Sublist integrations
  possible : ∀ integration ∈ refreshed, ∃ part, assistant.Present store now integration part
  new : ∀ integration ∈ integrations, ∀ part,
    assistant.Present store now integration part →
      integration ∈ refreshed ∧ after.part? integration = some part
  old : ∀ integration ∉ refreshed, after.part? integration = before.part? integration
  activeFile : after.activeFile = before.activeFile

theorem outcome_nil (before : Context) : assistant.Outcome store now before [] before [] where
  order := .refl []
  possible := by simp
  new := by simp
  old := fun _ _ => rfl
  activeFile := rfl

theorem Outcome.skipped {first : Integration} {rest refreshed : List Integration}
    (outcome : assistant.Outcome store now before rest after refreshed)
    (missing : ∀ part, ¬assistant.Present store now first part) :
    assistant.Outcome store now before (first :: rest) after refreshed where
  order := outcome.order.cons first
  possible := outcome.possible
  new := by
    intro integration member part present
    obtain rfl | member := List.mem_cons.1 member
    · exact absurd present (missing part)
    · exact outcome.new integration member part present
  old := outcome.old
  activeFile := outcome.activeFile

theorem Outcome.renewed {middle : Context} {first : Integration} {firstPart : Part}
    {rest refreshed : List Integration}
    (outcome : assistant.Outcome store now middle rest after refreshed)
    (firstPresent : assistant.Present store now first firstPart)
    (replaced : Replaced before middle first firstPart) :
    assistant.Outcome store now before (first :: rest) after (first :: refreshed) where
  order := outcome.order.cons_cons first
  possible := by
    intro integration member
    obtain rfl | member := List.mem_cons.1 member
    · exact ⟨firstPart, firstPresent⟩
    · exact outcome.possible integration member
  new := by
    intro integration member part present
    obtain rfl | member := List.mem_cons.1 member
    · refine ⟨List.mem_cons_self, ?_⟩
      rw [present.unique firstPresent]
      -- What comes later either leaves this part as it is now, or renews it.
      by_cases again : integration ∈ refreshed
      · exact (outcome.new integration (outcome.order.subset again) _ firstPresent).2
      · rw [outcome.old integration again, replaced.new]
    · obtain ⟨isRefreshed, isNew⟩ := outcome.new integration member part present
      exact ⟨List.mem_cons_of_mem first isRefreshed, isNew⟩
  old := by
    intro integration notRefreshed
    have different := List.ne_of_not_mem_cons notRefreshed
    have notLater := List.not_mem_of_not_mem_cons notRefreshed
    rw [outcome.old integration notLater, replaced.others integration different]
  activeFile := by rw [outcome.activeFile, replaced.activeFile]

theorem outcome_foldl_refreshStep (assistant : Assistant) (store : PluginStore)
    (now : Instant) (before : Context) (integrations earlier : List Integration) :
    ∃ after refreshed,
      integrations.foldl (assistant.refreshStep store now) (before, earlier) =
        (after, earlier ++ refreshed) ∧
      assistant.Outcome store now before integrations after refreshed := by
  induction integrations generalizing before earlier with
  | nil => exact ⟨before, [], by simp, outcome_nil before⟩
  | cons first rest inductionHypothesis =>
      rw [List.foldl_cons, refreshStep]
      cases result : assistant.refreshed? store now before first with
      | none =>
          obtain ⟨after, refreshed, run, outcome⟩ := inductionHypothesis before earlier
          refine ⟨after, refreshed, run, outcome.skipped ?_⟩
          intro part present
          obtain ⟨_, possible⟩ := refreshed?_of_present present before
          rw [result] at possible
          cases possible
      | some middle =>
          obtain ⟨firstPart, present, replaced⟩ := replaced_of_refreshed? result
          obtain ⟨after, refreshed, run, outcome⟩ :=
            inductionHypothesis middle (earlier ++ [first])
          exact ⟨after, first :: refreshed, by simpa using run,
            outcome.renewed present replaced⟩

/-- Refreshing the context is all or nothing for each integration, and what happens to one
has no effect on another.  Those that can be had are reported, in their order, in a single
event and to the caller; their parts are new, and everything else is as it was. -/
theorem refreshContexts_alone (assistant : Assistant) (store : PluginStore) (now : Instant) :
    let after := (assistant.refreshContexts store now).1
    let refreshed := (assistant.refreshContexts store now).2
    refreshed.Sublist Integration.all ∧
      (∀ integration, integration ∈ refreshed ↔
        ∃ part, assistant.Present store now integration part) ∧
      (∀ integration part, assistant.Present store now integration part →
        after.context.part? integration = some part) ∧
      (∀ integration ∉ refreshed,
        after.context.part? integration = assistant.context.part? integration) ∧
      (after.context.git = assistant.context.git ∨
        ∃ repository, store.repository? = some repository ∧
          (∀ query, repository.error? query = none) ∧
          after.context.git = some (repository.view assistant.settings.commitLimit)) ∧
      after.context.activeFile = assistant.context.activeFile ∧
      after.feed = assistant.feed.push refreshed ∧
      after.feed.missed + after.feed.events.length =
        assistant.feed.missed + assistant.feed.events.length + 1 ∧
      after = { assistant with context := after.context, feed := after.feed } := by
  obtain ⟨context, refreshed, run, outcome⟩ :=
    outcome_foldl_refreshStep assistant store now assistant.context Integration.all []
  rw [List.nil_append] at run
  have result : assistant.refreshContexts store now =
      ({ assistant with context := context, feed := assistant.feed.push refreshed },
        refreshed) := by
    rw [refreshContexts, run]
  have every (integration : Integration) : integration ∈ Integration.all := by
    cases integration <;> decide
  rw [result]
  refine ⟨outcome.order, fun integration => ⟨outcome.possible integration, ?_⟩, ?_,
    outcome.old, ?_, outcome.activeFile, rfl, assistant.feed.missed_add_length_push refreshed,
    rfl⟩
  · rintro ⟨part, present⟩
    exact (outcome.new integration (every integration) part present).1
  · intro integration part present
    exact (outcome.new integration (every integration) part present).2
  · by_cases renewed : Integration.git ∈ refreshed
    · obtain ⟨part, present⟩ := outcome.possible .git renewed
      have new := (outcome.new .git (every .git) part present).2
      cases present with
      | git client answers =>
          obtain ⟨_, known, same⟩ := Option.map_eq_some_iff.1 new
          cases same
          exact .inr ⟨_, client, answers, known⟩
    · exact .inl (Context.part?_git_inj (outcome.old .git renewed))

end Assistant

end ChatOps
