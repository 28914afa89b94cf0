import UsageMetrics.Daily.Flatten
import UsageMetrics.Proofs.Daily.Breakdown

namespace UsageMetrics.Metric

theorem Counter.label_injective {a b : Counter} (same : a.label = b.label) : a = b := by
  cases a <;> cases b <;> first | rfl | exact absurd same (by decide)

/-- The dimensions that the events of a group are sliced by anew from its innermost entries. -/
def MetricGroup.reslicings : MetricGroup → List Dimension
  | .codeCompletions => [.language, .editor, .model]
  | .ideChat => [.editor, .model]
  | .dotcomChat => [.model]
  | .pullRequests => [.repository, .model]

end UsageMetrics.Metric

namespace UsageMetrics.Feed

open UsageMetrics.Metric UsageMetrics.Text

def Tag.IsNamed (t : Tag) : Prop := ∃ name ∈ t.name, allBlank name = false

instance (t : Tag) : Decidable t.IsNamed :=
  match same : t.name with
  | none => isFalse fun ⟨_, given, _⟩ => by simp [same] at given
  | some name =>
    decidable_of_iff (allBlank name = false) <| by simp [Tag.IsNamed, same]

def DailyRecord.AllNamed (r : DailyRecord) : Prop :=
  (∀ l ∈ r.completions.languages, l.tag.IsNamed) ∧
  (∀ e ∈ r.completions.editors, e.tag.IsNamed ∧
    ∀ m ∈ e.models, m.tag.IsNamed ∧ ∀ l ∈ m.languages, l.tag.IsNamed) ∧
  (∀ e ∈ r.ideChat.editors, e.tag.IsNamed ∧ ∀ m ∈ e.models, m.tag.IsNamed) ∧
  (∀ m ∈ r.dotcomChat.models, m.tag.IsNamed) ∧
  ∀ p ∈ r.pullRequests.repositories, p.tag.IsNamed ∧ ∀ m ∈ p.models, m.tag.IsNamed

instance (r : DailyRecord) : Decidable r.AllNamed := inferInstanceAs (Decidable (_ ∧ _))

def LanguageActivity.event (l : LanguageActivity) : Counter → Nat
  | .suggestions => l.suggestions
  | .acceptances => l.acceptances
  | .linesSuggested => l.linesSuggested
  | .linesAccepted => l.linesAccepted
  | _ => 0

def ChatModel.event (m : ChatModel) : Counter → Nat
  | .chats => m.chats
  | .copyEvents => m.copyEvents
  | .insertionEvents => m.insertionEvents
  | _ => 0

def DotcomChatModel.event (m : DotcomChatModel) : Counter → Nat
  | .chats => m.chats
  | _ => 0

def PullRequestModel.event (m : PullRequestModel) : Counter → Nat
  | .prSummaries => m.summaries
  | _ => 0

def DailyRecord.innermost (r : DailyRecord) : MetricGroup → List (Counter → Nat)
  | .codeCompletions => r.completions.editors.flatMap fun e => e.models.flatMap fun m =>
    m.languages.map LanguageActivity.event
  | .ideChat => r.ideChat.editors.flatMap fun e => e.models.map ChatModel.event
  | .dotcomChat => r.dotcomChat.models.map DotcomChatModel.event
  | .pullRequests => r.pullRequests.repositories.flatMap fun p =>
    p.models.map PullRequestModel.event

def eventSum (counter : Counter) (entries : List (Counter → Nat)) : Int :=
  (entries.map fun event => (event counter : Int)).sum

theorem eventSum_append (counter : Counter) (first second : List (Counter → Nat)) :
    eventSum counter (first ++ second) = eventSum counter first + eventSum counter second := by
  simp [eventSum]

end UsageMetrics.Feed

namespace UsageMetrics.Daily

open UsageMetrics.Metric UsageMetrics.Feed

theorem entryKey?_named {t : Tag} (named : t.IsNamed) (dimension : Dimension) :
    ∃ name, entryKey? dimension t = some (dimension, name) := by
  obtain ⟨name, given, solid⟩ := named
  rw [Option.mem_def] at given
  exact ⟨name, by simp [entryKey?, given, solid]⟩

section Addition

variable {dimension : Dimension} {counter : Counter}

def countUnder (counter : Counter) (amounts : List (Counter × Nat)) : Int :=
  (amounts.map fun amount => if amount.1 = counter then (amount.2 : Int) else 0).sum

theorem amountUnder_labels (counter : Counter) (amounts : List (Counter × Nat)) :
    amountUnder counter.label (amounts.map fun (counter, n) => (counter.label, (n : Int))) =
      countUnder counter amounts := by
  rw [amountUnder, countUnder, List.map_map]
  congr 1
  apply List.map_congr_left
  intro amount _
  by_cases same : amount.1 = counter
  · simp [same]
  · have differ : amount.1.label ≠ counter.label := fun label =>
      same (Counter.label_injective label)
    simp [same, differ]

theorem addedBy_addTo {t : Tag} (named : t.IsNamed) (own : Dimension)
    (amounts : List (Counter × Nat)) :
    addedBy dimension counter.label (addTo (entryKey? own t) amounts) =
      if own == dimension then countUnder counter amounts else 0 := by
  obtain ⟨name, key⟩ := entryKey?_named named own
  simp [key, addTo, Action.added, amountUnder_labels]

theorem addedBy_users (event : counter ≠ .engagedUsers) (key? : Option EntityKey) (users : Nat) :
    addedBy dimension counter.label (addTo key? [(.engagedUsers, users)]) = 0 := by
  cases key? with
  | none => rfl
  | some key =>
    have differ : Counter.engagedUsers.label ≠ counter.label := fun label =>
      event (Counter.label_injective label).symm
    simp [addTo, Action.added, amountUnder, differ]

@[simp] theorem addedBy_markCustom (key? : Option EntityKey) (isCustom : Bool) (label : String) :
    addedBy dimension label (markCustom key? isCustom) = 0 := by
  cases key? <;> cases isCustom <;> simp [markCustom, Action.added]

@[simp] theorem added_accept (own : Dimension) (t : Tag) (label : String) :
    (Action.accept own t).added dimension label = 0 := rfl

theorem addedBy_eq_eventSum {β : Type} {actionsOf : β → List Action}
    {innermostOf : β → List (Counter → Nat)} {entries : List β}
    (each : ∀ entry ∈ entries,
      addedBy dimension counter.label (actionsOf entry) = eventSum counter (innermostOf entry)) :
    addedBy dimension counter.label (entries.flatMap actionsOf) =
      eventSum counter (entries.flatMap innermostOf) := by
  induction entries with
  | nil => rfl
  | cons entry rest ih =>
    obtain ⟨first, others⟩ := List.forall_mem_cons.mp each
    rw [List.flatMap_cons, List.flatMap_cons, addedBy_append, eventSum_append, first, ih others]

theorem addedBy_eq_sum {β : Type} {actionsOf : β → List Action} {eventOf : β → Counter → Nat}
    {entries : List β}
    (each : ∀ entry ∈ entries,
      addedBy dimension counter.label (actionsOf entry) = eventOf entry counter) :
    addedBy dimension counter.label (entries.flatMap actionsOf) =
      eventSum counter (entries.map eventOf) := by
  rw [List.map_eq_flatMap]
  exact addedBy_eq_eventSum fun entry member => by simp [eventSum, each entry member]

end Addition

namespace Completions

variable {dimension : Dimension} {counter : Counter}

theorem countUnder_amounts (l : LanguageActivity) :
    countUnder counter (amounts l) = l.event counter := by
  cases counter <;> simp [countUnder, amounts, LanguageActivity.event]

/-- The three keys that an innermost entry counts for are of three dimensions. -/
theorem addedBy_languageActions (sliced : dimension ∈ MetricGroup.codeCompletions.reslicings)
    {editor model : Tag} {l : LanguageActivity} (namedEditor : editor.IsNamed)
    (namedModel : model.IsNamed) (named : l.tag.IsNamed) :
    addedBy dimension counter.label
        (languageActions (entryKey? .editor editor) (entryKey? .model model) l) =
      l.event counter := by
  simp only [languageActions, addedBy_append, addedBy_cons, added_accept,
    addedBy_addTo namedEditor, addedBy_addTo namedModel, addedBy_addTo named, countUnder_amounts]
  cases dimension with
  | repository => simp [MetricGroup.reslicings] at sliced
  | language => simp
  | editor => simp
  | model => simp

theorem addedBy_actions (sliced : dimension ∈ MetricGroup.codeCompletions.reslicings)
    (event : counter ≠ .engagedUsers) {r : DailyRecord} (named : r.AllNamed) :
    addedBy dimension counter.label (actions r.completions) =
      eventSum counter (r.innermost .codeCompletions) := by
  have editors : addedBy dimension counter.label (r.completions.editors.flatMap editorActions) =
      eventSum counter (r.innermost .codeCompletions) := by
    apply addedBy_eq_eventSum
    intro e inGroup
    obtain ⟨namedEditor, namedModels⟩ := named.2.1 e inGroup
    simp only [editorActions, addedBy_append, addedBy_cons, added_accept, addedBy_users event,
      Int.zero_add]
    apply addedBy_eq_eventSum
    intro m inEditor
    obtain ⟨namedModel, namedLanguages⟩ := namedModels m inEditor
    simp only [modelActions, addedBy_append, addedBy_cons, added_accept, addedBy_users event,
      addedBy_markCustom, Int.zero_add]
    exact addedBy_eq_sum fun l inModel =>
      addedBy_languageActions sliced namedEditor namedModel (namedLanguages l inModel)
  -- The languages that the group lists, and the raises after them, are about users only.
  have accepted : addedBy dimension counter.label
      (r.completions.languages.map fun l => .accept .language l.tag) = 0 := by
    rw [List.map_eq_flatMap]
    exact addedBy_flatMap_zero _ _ fun l _ => by simp
  have listed : addedBy dimension counter.label (r.completions.languages.flatMap listedUsers) = 0 :=
    addedBy_flatMap_zero _ _ fun l _ => addedBy_users event _ _
  have nested : addedBy dimension counter.label
      ((nestedLanguages r.completions).flatMap (nestedUsers r.completions)) = 0 := by
    apply addedBy_flatMap_zero
    intro l _
    simp only [nestedUsers]
    cases entryKey? .language l.tag with
    | none => rfl
    | some key =>
      dsimp only
      split
      · rfl
      · simp [Action.added]
  simp only [actions, addedBy_append, accepted, editors, listed, nested]
  omega

end Completions

namespace IdeChat

variable {dimension : Dimension} {counter : Counter}

theorem countUnder_amounts (m : ChatModel) :
    countUnder counter (amounts m) = m.event counter := by
  cases counter <;> simp [countUnder, amounts, ChatModel.event]

theorem countUnder_own (event : counter ≠ .engagedUsers) (m : ChatModel) :
    countUnder counter ((.engagedUsers, m.engagedUsers) :: amounts m) = m.event counter := by
  rw [← countUnder_amounts]
  simp [countUnder, event.symm]

theorem addedBy_modelActions (sliced : dimension ∈ MetricGroup.ideChat.reslicings)
    (event : counter ≠ .engagedUsers) {editor : Tag} {m : ChatModel}
    (namedEditor : editor.IsNamed) (named : m.tag.IsNamed) :
    addedBy dimension counter.label (modelActions (entryKey? .editor editor) m) =
      m.event counter := by
  simp only [modelActions, addedBy_append, addedBy_cons, added_accept, addedBy_markCustom,
    addedBy_addTo namedEditor, addedBy_addTo named, countUnder_amounts, countUnder_own event]
  cases dimension with
  | repository => simp [MetricGroup.reslicings] at sliced
  | language => simp [MetricGroup.reslicings] at sliced
  | editor => simp
  | model => simp

theorem addedBy_actions (sliced : dimension ∈ MetricGroup.ideChat.reslicings)
    (event : counter ≠ .engagedUsers) {r : DailyRecord} (named : r.AllNamed) :
    addedBy dimension counter.label (actions r.ideChat) =
      eventSum counter (r.innermost .ideChat) := by
  apply addedBy_eq_eventSum
  intro e inGroup
  obtain ⟨namedEditor, namedModels⟩ := named.2.2.1 e inGroup
  simp only [editorActions, addedBy_append, addedBy_cons, added_accept, addedBy_users event,
    Int.zero_add]
  exact addedBy_eq_sum fun m inEditor =>
    addedBy_modelActions sliced event namedEditor (namedModels m inEditor)

end IdeChat

namespace DotcomChat

variable {dimension : Dimension} {counter : Counter}

theorem countUnder_own (event : counter ≠ .engagedUsers) (m : DotcomChatModel) :
    countUnder counter [(.engagedUsers, m.engagedUsers), (.chats, m.chats)] = m.event counter := by
  cases counter <;> simp_all [countUnder, DotcomChatModel.event]

theorem addedBy_actions (sliced : dimension ∈ MetricGroup.dotcomChat.reslicings)
    (event : counter ≠ .engagedUsers) {r : DailyRecord} (named : r.AllNamed) :
    addedBy dimension counter.label (actions r.dotcomChat) =
      eventSum counter (r.innermost .dotcomChat) := by
  apply addedBy_eq_sum
  intro m inGroup
  obtain rfl : dimension = .model := by simpa [MetricGroup.reslicings] using sliced
  simp [modelActions, addedBy_addTo (named.2.2.2.1 m inGroup), countUnder_own event]

end DotcomChat

namespace PullRequests

variable {dimension : Dimension} {counter : Counter}

theorem countUnder_summaries (m : PullRequestModel) :
    countUnder counter [(.prSummaries, m.summaries)] = m.event counter := by
  cases counter <;> simp [countUnder, PullRequestModel.event]

theorem countUnder_own (event : counter ≠ .engagedUsers) (m : PullRequestModel) :
    countUnder counter [(.engagedUsers, m.engagedUsers), (.prSummaries, m.summaries)] =
      m.event counter := by
  rw [← countUnder_summaries]
  simp [countUnder, event.symm]

theorem addedBy_modelActions (sliced : dimension ∈ MetricGroup.pullRequests.reslicings)
    (event : counter ≠ .engagedUsers) {repository : Tag} {m : PullRequestModel}
    (namedRepository : repository.IsNamed) (named : m.tag.IsNamed) :
    addedBy dimension counter.label (modelActions (entryKey? .repository repository) m) =
      m.event counter := by
  simp only [modelActions, addedBy_append, addedBy_cons, added_accept, addedBy_markCustom,
    addedBy_addTo namedRepository, addedBy_addTo named, countUnder_summaries, countUnder_own event]
  cases dimension with
  | editor => simp [MetricGroup.reslicings] at sliced
  | language => simp [MetricGroup.reslicings] at sliced
  | repository => simp
  | model => simp

theorem addedBy_actions (sliced : dimension ∈ MetricGroup.pullRequests.reslicings)
    (event : counter ≠ .engagedUsers) {r : DailyRecord} (named : r.AllNamed) :
    addedBy dimension counter.label (actions r.pullRequests) =
      eventSum counter (r.innermost .pullRequests) := by
  apply addedBy_eq_eventSum
  intro p inGroup
  obtain ⟨namedRepository, namedModels⟩ := named.2.2.2.2 p inGroup
  simp only [repositoryActions, addedBy_append, addedBy_cons, added_accept, addedBy_users event,
    Int.zero_add]
  exact addedBy_eq_sum fun m inRepository =>
    addedBy_modelActions sliced event namedRepository (namedModels m inRepository)

end PullRequests

/-- Once all entries are named, each event counts exactly once in every dimension that its group
is sliced by. -/
theorem addedBy_groupFeed {r : DailyRecord} (named : r.AllNamed) {group : MetricGroup}
    {dimension : Dimension} (sliced : dimension ∈ group.reslicings) {counter : Counter}
    (event : counter ≠ .engagedUsers) :
    addedBy dimension counter.label (groupFeed r group).actions =
      eventSum counter (r.innermost group) := by
  cases group with
  | codeCompletions => exact Completions.addedBy_actions sliced event named
  | ideChat => exact IdeChat.addedBy_actions sliced event named
  | dotcomChat => exact DotcomChat.addedBy_actions sliced event named
  | pullRequests => exact PullRequests.addedBy_actions sliced event named

end UsageMetrics.Daily
