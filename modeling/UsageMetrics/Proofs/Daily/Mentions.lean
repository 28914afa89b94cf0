import UsageMetrics.Proofs.Daily.Amounts

namespace UsageMetrics.Feed

open UsageMetrics.Metric

/-- What an entry says of the entity that it names: its users, whether that is custom, and the
events of the innermost entries in it. -/
structure Mention where
  name : Option String
  users : Nat
  isCustom : Bool
  events : List (Counter → Nat)

def Mention.amount (m : Mention) (counter : Counter) : Int :=
  if counter = .engagedUsers then m.users else eventSum counter m.events

/-- The users of a language under a model are never added up. -/
def LanguageActivity.mention (l : LanguageActivity) : Mention :=
  ⟨l.tag.name, 0, false, [l.event]⟩

def CompletionModel.mention (m : CompletionModel) : Mention :=
  ⟨m.tag.name, m.engagedUsers, m.isCustom, m.languages.map LanguageActivity.event⟩

def CompletionEditor.mention (e : CompletionEditor) : Mention :=
  ⟨e.tag.name, e.engagedUsers, false,
    e.models.flatMap fun m => m.languages.map LanguageActivity.event⟩

def ChatModel.mention (m : ChatModel) : Mention :=
  ⟨m.tag.name, m.engagedUsers, m.isCustom, [m.event]⟩

def ChatEditor.mention (e : ChatEditor) : Mention :=
  ⟨e.tag.name, e.engagedUsers, false, e.models.map ChatModel.event⟩

def DotcomChatModel.mention (m : DotcomChatModel) : Mention :=
  ⟨m.tag.name, m.engagedUsers, m.isCustom, [m.event]⟩

def PullRequestModel.mention (m : PullRequestModel) : Mention :=
  ⟨m.tag.name, m.engagedUsers, m.isCustom, [m.event]⟩

def Repository.mention (r : Repository) : Mention :=
  ⟨r.tag.name, r.engagedUsers, false, r.models.map PullRequestModel.event⟩

/-- The entries of a group that are about entities of a dimension, wherever they are nested. The
languages that a group lists itself are not among them. -/
def DailyRecord.mentions (r : DailyRecord) : MetricGroup → Dimension → List Mention
  | .codeCompletions, .language => r.completions.editors.flatMap fun e =>
    e.models.flatMap fun m => m.languages.map LanguageActivity.mention
  | .codeCompletions, .editor => r.completions.editors.map CompletionEditor.mention
  | .codeCompletions, .model => r.completions.editors.flatMap fun e =>
    e.models.map CompletionModel.mention
  | .ideChat, .editor => r.ideChat.editors.map ChatEditor.mention
  | .ideChat, .model => r.ideChat.editors.flatMap fun e => e.models.map ChatModel.mention
  | .dotcomChat, .model => r.dotcomChat.models.map DotcomChatModel.mention
  | .pullRequests, .repository => r.pullRequests.repositories.map Repository.mention
  | .pullRequests, .model => r.pullRequests.repositories.flatMap fun p =>
    p.models.map PullRequestModel.mention
  | _, _ => []

theorem eventSum_flatMap {β : Type} (counter : Counter) (events : β → List (Counter → Nat))
    (entries : List β) :
    eventSum counter (entries.flatMap events) =
      (entries.map fun entry => eventSum counter (events entry)).sum := by
  induction entries with
  | nil => rfl
  | cons entry rest ih => simp [eventSum_append, ih]

theorem eventSum_map {β : Type} (counter : Counter) (event : β → Counter → Nat)
    (entries : List β) :
    eventSum counter (entries.map event) =
      (entries.map fun entry => (event entry counter : Int)).sum := by
  rw [eventSum, List.map_map]
  rfl

end UsageMetrics.Feed

namespace UsageMetrics.Daily

open UsageMetrics.Metric UsageMetrics.Feed UsageMetrics.Text

theorem entryKey?_eq_some_iff {own dimension : Dimension} {t : Tag} {name : String} :
    entryKey? own t = some (dimension, name) ↔
      own = dimension ∧ t.name = some name ∧ allBlank name = false := by
  unfold entryKey?
  cases given : t.name with
  | none => simp
  | some other =>
    cases blank : allBlank other with
    | true =>
      simp only [blank, ↓reduceIte, Option.some.injEq, reduceCtorEq, false_iff]
      rintro ⟨-, rfl, solid⟩
      simp [blank] at solid
    | false =>
      simp only [blank, Bool.false_eq_true, ↓reduceIte, Option.some.injEq, Prod.mk.injEq]
      constructor
      · rintro ⟨rfl, rfl⟩
        exact ⟨rfl, rfl, blank⟩
      · rintro ⟨rfl, rfl, -⟩
        exact ⟨rfl, rfl⟩

theorem countUnder_cons (counter : Counter) (amount : Counter × Nat)
    (amounts : List (Counter × Nat)) :
    countUnder counter (amount :: amounts) =
      countUnder counter [amount] + countUnder counter amounts := by
  simp [countUnder]

structure Reports (dimension : Dimension) (actions : List Action) (mentions : List Mention) :
    Prop where
  kept : ∀ name, (dimension, name) ∈ keptBy actions ↔
    allBlank name = false ∧ ∃ m ∈ mentions, m.name = some name
  custom : ∀ name, (dimension, name) ∈ customBy actions ↔
    allBlank name = false ∧ ∃ m ∈ mentions, m.name = some name ∧ m.isCustom = true
  added : ∀ name, allBlank name = false → ∀ counter,
    addedAt (dimension, name) counter.label actions =
      ((mentions.filter fun m => m.name = some name).map fun m => m.amount counter).sum

namespace Reports

variable {β : Type} {dimension : Dimension} {first second : List Action}
  {mentions others : List Mention}

theorem append (before : Reports dimension first mentions)
    (after : Reports dimension second others) :
    Reports dimension (first ++ second) (mentions ++ others) where
  kept name := by
    simp only [keptBy_append, List.mem_append, before.kept, after.kept, or_and_right, exists_or,
      and_or_left]
  custom name := by
    simp only [customBy_append, List.mem_append, before.custom, after.custom, or_and_right,
      exists_or, and_or_left]
  added name named counter := by
    rw [addedAt_append, before.added name named, after.added name named, List.filter_append,
      List.map_append, List.sum_append]

theorem nil : Reports dimension [] [] where
  kept name := by simp
  custom name := by simp
  added name _ counter := rfl

theorem flatMap {actions : β → List Action} {mentionsOf : β → List Mention} {entries : List β}
    (each : ∀ entry, Reports dimension (actions entry) (mentionsOf entry)) :
    Reports dimension (entries.flatMap actions) (entries.flatMap mentionsOf) := by
  induction entries with
  | nil => exact nil
  | cons entry rest ih => exact (each entry).append ih

theorem map {actions : β → List Action} {mention : β → Mention} {entries : List β}
    (each : ∀ entry, Reports dimension (actions entry) [mention entry]) :
    Reports dimension (entries.flatMap actions) (entries.map mention) := by
  rw [List.map_eq_flatMap]
  exact flatMap each

theorem accept_elsewhere (own : Dimension) (other : own ≠ dimension) (t : Tag) :
    Reports dimension [.accept own t] [] where
  kept name := by simp [entryKey?_eq_some_iff, other]
  custom name := by simp
  added name _ counter := by simp

theorem addTo_elsewhere (own : Dimension) (other : own ≠ dimension) (t : Tag)
    (amounts : List (Counter × Nat)) :
    Reports dimension (addTo (entryKey? own t) amounts) [] where
  kept name := by simp
  custom name := by simp
  added name _ counter := by simp [entryKey?_eq_some_iff, other]

theorem markCustom_elsewhere (own : Dimension) (other : own ≠ dimension) (t : Tag)
    (isCustom : Bool) : Reports dimension (markCustom (entryKey? own t) isCustom) [] where
  kept name := by simp
  custom name := by simp [entryKey?_eq_some_iff, other]
  added name _ counter := by simp

theorem flatMap_elsewhere {actions : β → List Action} {entries : List β}
    (each : ∀ entry, Reports dimension (actions entry) []) :
    Reports dimension (entries.flatMap actions) [] := by
  have reports : Reports dimension (entries.flatMap actions) (entries.flatMap fun _ => []) :=
    flatMap each
  rwa [List.flatMap_eq_nil_iff.mpr fun _ _ => rfl] at reports

/-- Events are no users, so an entry may count both for its entity. -/
theorem one {m : Mention} (silent : ∀ event ∈ m.events, event .engagedUsers = 0)
    (kept : ∀ name, (dimension, name) ∈ keptBy first ↔ allBlank name = false ∧ m.name = some name)
    (custom : ∀ name, (dimension, name) ∈ customBy first ↔
      allBlank name = false ∧ m.name = some name ∧ m.isCustom = true)
    (added : ∀ name, allBlank name = false → ∀ counter,
      addedAt (dimension, name) counter.label first =
        if m.name = some name then
          countUnder counter [(.engagedUsers, m.users)] + eventSum counter m.events
        else 0) :
    Reports dimension first [m] where
  kept name := by simpa using kept name
  custom name := by simpa using custom name
  added name named counter := by
    have amount : countUnder counter [(.engagedUsers, m.users)] + eventSum counter m.events =
        m.amount counter := by
      by_cases users : counter = .engagedUsers
      · subst users
        have none : eventSum .engagedUsers m.events = 0 := by
          rw [eventSum, List.map_congr_left fun event member => by rw [silent event member]]
          exact List.sum_map_zero
        simp [Mention.amount, countUnder, none]
      · have differ : Counter.engagedUsers ≠ counter := fun back => users back.symm
        simp [Mention.amount, countUnder, users, differ]
    rw [added name named counter, amount]
    by_cases own : m.name = some name <;> simp [own]

end Reports

namespace Completions

section Editor

variable (e : CompletionEditor)

theorem reports_editor : Reports .editor (editorActions e) [e.mention] := by
  refine .one ?_ (fun name => ?_) (fun name => ?_) fun name named counter => ?_
  · simp only [CompletionEditor.mention, List.mem_flatMap, List.mem_map]
    rintro event ⟨m, -, l, -, rfl⟩
    rfl
  · simp [editorActions, modelActions, languageActions, keptBy_flatMap, entryKey?_eq_some_iff,
      CompletionEditor.mention, and_comm]
  · simp [editorActions, modelActions, languageActions, customBy_flatMap, entryKey?_eq_some_iff,
      CompletionEditor.mention]
  · by_cases own : e.tag.name = some name <;>
      simp [editorActions, modelActions, languageActions, addedAt_flatMap, entryKey?_eq_some_iff,
        CompletionEditor.mention, named, own, countUnder_amounts, eventSum_flatMap, eventSum_map]

theorem reports_model (editor : Tag) (m : CompletionModel) :
    Reports .model (modelActions (entryKey? .editor editor) m) [m.mention] := by
  refine .one ?_ (fun name => ?_) (fun name => ?_) fun name named counter => ?_
  · simp only [CompletionModel.mention, List.mem_map]
    rintro event ⟨l, -, rfl⟩
    rfl
  · simp [modelActions, languageActions, keptBy_flatMap, entryKey?_eq_some_iff,
      CompletionModel.mention, and_comm]
  · simp [modelActions, languageActions, customBy_flatMap, entryKey?_eq_some_iff,
      CompletionModel.mention, and_comm, and_assoc]
  · by_cases own : m.tag.name = some name <;>
      simp [modelActions, languageActions, addedAt_flatMap, entryKey?_eq_some_iff,
        CompletionModel.mention, named, own, countUnder_amounts, eventSum_map]

theorem reports_language (editor model : Tag) (l : LanguageActivity) :
    Reports .language (languageActions (entryKey? .editor editor) (entryKey? .model model) l)
      [l.mention] := by
  refine .one ?_ (fun name => ?_) (fun name => ?_) fun name named counter => ?_
  · simp [LanguageActivity.mention, LanguageActivity.event]
  · simp [languageActions, entryKey?_eq_some_iff, LanguageActivity.mention, and_comm]
  · simp [languageActions, LanguageActivity.mention]
  · have users : countUnder counter [(.engagedUsers, 0)] = 0 := by simp [countUnder]
    simp [languageActions, entryKey?_eq_some_iff, LanguageActivity.mention, named, eventSum,
      countUnder_amounts, users]

theorem reports_models : Reports .model (editorActions e) (e.models.map CompletionModel.mention) :=
  .append (.append (.accept_elsewhere .editor (by decide) e.tag)
    (.addTo_elsewhere .editor (by decide) e.tag _)) (.map (reports_model e.tag))

theorem reports_languages : Reports .language (editorActions e)
    (e.models.flatMap fun m => m.languages.map LanguageActivity.mention) := by
  refine .append (.append (.accept_elsewhere .editor (by decide) e.tag)
    (.addTo_elsewhere .editor (by decide) e.tag _)) (.flatMap fun m => ?_)
  exact .append (.append (.append (.accept_elsewhere .model (by decide) m.tag)
    (.addTo_elsewhere .model (by decide) m.tag _))
    (.markCustom_elsewhere .model (by decide) m.tag _)) (.map (reports_language e.tag m.tag))

theorem reports_repository : Reports .repository (editorActions e) [] where
  kept name := by
    simp [editorActions, modelActions, languageActions, keptBy_flatMap, entryKey?_eq_some_iff]
  custom name := by
    simp [editorActions, modelActions, languageActions, customBy_flatMap, entryKey?_eq_some_iff]
  added name _ counter := by
    simp [editorActions, modelActions, languageActions, addedAt_flatMap, entryKey?_eq_some_iff]

end Editor

theorem reports_listed (c : Completions) {dimension : Dimension} (other : .language ≠ dimension)
    {mentions : List Mention} (editors : Reports dimension (c.editors.flatMap editorActions) mentions) :
    Reports dimension (c.languages.map (fun l => .accept .language l.tag) ++
      c.editors.flatMap editorActions ++ c.languages.flatMap listedUsers) mentions := by
  have listed : Reports dimension (c.languages.map fun l => .accept .language l.tag) [] := by
    rw [List.map_eq_flatMap]
    exact .flatMap_elsewhere fun l => .accept_elsewhere .language other l.tag
  have users : Reports dimension (c.languages.flatMap listedUsers) [] :=
    .flatMap_elsewhere fun l => .addTo_elsewhere .language other l.tag _
  simpa using (listed.append editors).append users

end Completions

namespace IdeChat

theorem reports_editor (e : ChatEditor) : Reports .editor (editorActions e) [e.mention] := by
  refine .one ?_ (fun name => ?_) (fun name => ?_) fun name named counter => ?_
  · simp only [ChatEditor.mention, List.mem_map]
    rintro event ⟨m, -, rfl⟩
    rfl
  · simp [editorActions, modelActions, keptBy_flatMap, entryKey?_eq_some_iff, ChatEditor.mention,
      and_comm]
  · simp [editorActions, modelActions, customBy_flatMap, entryKey?_eq_some_iff, ChatEditor.mention]
  · by_cases own : e.tag.name = some name <;>
      simp [editorActions, modelActions, addedAt_flatMap, entryKey?_eq_some_iff,
        ChatEditor.mention, named, own, countUnder_amounts, eventSum_map]

theorem reports_model (editor : Tag) (m : ChatModel) :
    Reports .model (modelActions (entryKey? .editor editor) m) [m.mention] := by
  refine .one ?_ (fun name => ?_) (fun name => ?_) fun name named counter => ?_
  · simp [ChatModel.mention, ChatModel.event]
  · simp [modelActions, entryKey?_eq_some_iff, ChatModel.mention, and_comm]
  · simp [modelActions, entryKey?_eq_some_iff, ChatModel.mention, and_comm, and_assoc]
  · have counted : countUnder counter ((.engagedUsers, m.engagedUsers) :: amounts m) =
        countUnder counter [(.engagedUsers, m.engagedUsers)] + m.event counter := by
      rw [countUnder_cons, countUnder_amounts]
    by_cases own : m.tag.name = some name <;>
      simp [modelActions, entryKey?_eq_some_iff, ChatModel.mention, own, named, eventSum, counted]

theorem reports_models (e : ChatEditor) :
    Reports .model (editorActions e) (e.models.map ChatModel.mention) :=
  .append (.append (.accept_elsewhere .editor (by decide) e.tag)
    (.addTo_elsewhere .editor (by decide) e.tag _)) (.map (reports_model e.tag))

theorem reports_none {dimension : Dimension} (editor : .editor ≠ dimension)
    (model : .model ≠ dimension) (e : ChatEditor) : Reports dimension (editorActions e) [] :=
  .append (.append (.accept_elsewhere .editor editor e.tag)
    (.addTo_elsewhere .editor editor e.tag _)) (.flatMap_elsewhere fun m =>
      .append (.append (.addTo_elsewhere .editor editor e.tag _)
        (.append (.accept_elsewhere .model model m.tag) (.addTo_elsewhere .model model m.tag _)))
        (.markCustom_elsewhere .model model m.tag _))

end IdeChat

namespace DotcomChat

theorem reports_model (m : DotcomChatModel) : Reports .model (modelActions m) [m.mention] := by
  refine .one ?_ (fun name => ?_) (fun name => ?_) fun name named counter => ?_
  · simp [DotcomChatModel.mention, DotcomChatModel.event]
  · simp [modelActions, entryKey?_eq_some_iff, DotcomChatModel.mention, and_comm]
  · simp [modelActions, entryKey?_eq_some_iff, DotcomChatModel.mention, and_comm, and_assoc]
  · by_cases own : m.tag.name = some name
    · cases counter <;>
        simp [modelActions, entryKey?_eq_some_iff, DotcomChatModel.mention, own, named, eventSum,
        countUnder, DotcomChatModel.event]
    · simp [modelActions, entryKey?_eq_some_iff, DotcomChatModel.mention, own]

theorem reports_none {dimension : Dimension} (model : .model ≠ dimension) (m : DotcomChatModel) :
    Reports dimension (modelActions m) [] :=
  .append (.append (.accept_elsewhere .model model m.tag) (.addTo_elsewhere .model model m.tag _))
    (.markCustom_elsewhere .model model m.tag _)

end DotcomChat

namespace PullRequests

theorem reports_repository (p : Repository) :
    Reports .repository (repositoryActions p) [p.mention] := by
  refine .one ?_ (fun name => ?_) (fun name => ?_) fun name named counter => ?_
  · simp only [Repository.mention, List.mem_map]
    rintro event ⟨m, -, rfl⟩
    rfl
  · simp [repositoryActions, modelActions, keptBy_flatMap, entryKey?_eq_some_iff,
      Repository.mention, and_comm]
  · simp [repositoryActions, modelActions, customBy_flatMap, entryKey?_eq_some_iff,
      Repository.mention]
  · by_cases own : p.tag.name = some name <;>
      simp [repositoryActions, modelActions, addedAt_flatMap, entryKey?_eq_some_iff,
        Repository.mention, named, own, countUnder_summaries, eventSum_map]

theorem reports_model (repository : Tag) (m : PullRequestModel) :
    Reports .model (modelActions (entryKey? .repository repository) m) [m.mention] := by
  refine .one ?_ (fun name => ?_) (fun name => ?_) fun name named counter => ?_
  · simp [PullRequestModel.mention, PullRequestModel.event]
  · simp [modelActions, entryKey?_eq_some_iff, PullRequestModel.mention, and_comm]
  · simp [modelActions, entryKey?_eq_some_iff, PullRequestModel.mention, and_comm, and_assoc]
  · have counted : countUnder counter [(.engagedUsers, m.engagedUsers), (.prSummaries, m.summaries)] =
        countUnder counter [(.engagedUsers, m.engagedUsers)] + m.event counter := by
      rw [countUnder_cons, countUnder_summaries]
    by_cases own : m.tag.name = some name <;>
      simp [modelActions, entryKey?_eq_some_iff, PullRequestModel.mention, own, named, eventSum,
        counted]

theorem reports_models (p : Repository) :
    Reports .model (repositoryActions p) (p.models.map PullRequestModel.mention) :=
  .append (.append (.accept_elsewhere .repository (by decide) p.tag)
    (.addTo_elsewhere .repository (by decide) p.tag _)) (.map (reports_model p.tag))

theorem reports_none {dimension : Dimension} (repository : .repository ≠ dimension)
    (model : .model ≠ dimension) (p : Repository) :
    Reports dimension (repositoryActions p) [] :=
  .append (.append (.accept_elsewhere .repository repository p.tag)
    (.addTo_elsewhere .repository repository p.tag _)) (.flatMap_elsewhere fun m =>
      .append (.append (.addTo_elsewhere .repository repository p.tag _)
        (.append (.accept_elsewhere .model model m.tag) (.addTo_elsewhere .model model m.tag _)))
        (.markCustom_elsewhere .model model m.tag _))

end PullRequests

/-- Of the users of languages it is told apart who reports them; everything else adds up. -/
theorem reports_adding (r : DailyRecord) (group : MetricGroup) (dimension : Dimension)
    (other : group = .codeCompletions → dimension ≠ .language) :
    Reports dimension (adding r group) (r.mentions group dimension) := by
  cases group with
  | codeCompletions =>
    have differ : Dimension.language ≠ dimension := fun back => other rfl back.symm
    refine Completions.reports_listed r.completions differ ?_
    cases dimension with
    | language => exact absurd rfl differ
    | editor => exact .map Completions.reports_editor
    | model => exact .flatMap Completions.reports_models
    | repository => exact .flatMap_elsewhere Completions.reports_repository
  | ideChat =>
    cases dimension with
    | editor => exact .map IdeChat.reports_editor
    | model => exact .flatMap IdeChat.reports_models
    | _ => exact .flatMap_elsewhere (IdeChat.reports_none nofun nofun)
  | dotcomChat =>
    cases dimension with
    | model => exact .map DotcomChat.reports_model
    | _ => exact .flatMap_elsewhere (DotcomChat.reports_none nofun)
  | pullRequests =>
    cases dimension with
    | repository => exact .map PullRequests.reports_repository
    | model => exact .flatMap PullRequests.reports_models
    | _ => exact .flatMap_elsewhere (PullRequests.reports_none nofun nofun)

end UsageMetrics.Daily
