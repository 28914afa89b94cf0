import UsageMetrics.Proofs.Daily.Phases

namespace UsageMetrics.Daily

open UsageMetrics.Metric UsageMetrics.Feed

def Action.accepted? : Action → Option (Dimension × Tag)
  | .accept dimension tag => some (dimension, tag)
  | _ => none

def acceptedBy (actions : List Action) : List (Dimension × Tag) :=
  actions.filterMap Action.accepted?

section AcceptedBy

@[simp] theorem acceptedBy_nil : acceptedBy [] = [] := rfl

@[simp] theorem acceptedBy_accept (dimension : Dimension) (t : Tag) (rest : List Action) :
    acceptedBy (.accept dimension t :: rest) = (dimension, t) :: acceptedBy rest := rfl

@[simp] theorem acceptedBy_append (first second : List Action) :
    acceptedBy (first ++ second) = acceptedBy first ++ acceptedBy second :=
  List.filterMap_append

@[simp] theorem acceptedBy_addTo (key? : Option EntityKey) (amounts : List (Counter × Nat)) :
    acceptedBy (addTo key? amounts) = [] := by
  cases key? <;> rfl

@[simp] theorem acceptedBy_markCustom (key? : Option EntityKey) (isCustom : Bool) :
    acceptedBy (markCustom key? isCustom) = [] := by
  cases key? <;> cases isCustom <;> rfl

theorem acceptedBy_flatMap {β : Type} (actions : β → List Action) (entries : List β) :
    acceptedBy (entries.flatMap actions) =
      entries.flatMap fun entry => acceptedBy (actions entry) :=
  List.filterMap_flatMap

@[simp] theorem acceptedBy_nestedUsers (c : Completions) (l : LanguageActivity) :
    acceptedBy (Completions.nestedUsers c l) = [] := by
  unfold Completions.nestedUsers
  cases entryKey? .language l.tag with
  | none => rfl
  | some key =>
    dsimp only
    split <;> rfl

end AcceptedBy

theorem flatMap_warnings (group : MetricGroup) (day : String) (actions : List Action) :
    actions.flatMap (Action.warnings group day) =
      (acceptedBy actions).flatMap fun entry =>
        Breakdown.warningsOn group day entry.1 entry.2 := by
  induction actions with
  | nil => rfl
  | cons action rest ih =>
    rw [List.flatMap_cons, ih]
    cases action <;> rfl

theorem Breakdown.warnings_run (group : MetricGroup) (day : String) (actions : List Action) :
    (run group day actions).warnings = (acceptedBy actions).flatMap fun entry =>
      warningsOn group day entry.1 entry.2 := by
  obtain ⟨-, -, warnings⟩ := foldl_apply group day actions empty
  rw [run, warnings, flatMap_warnings]
  rfl

namespace Completions

/-- Users are counted for languages that were accepted before. -/
theorem acceptedBy_actions (c : Completions) :
    acceptedBy (actions c) = acceptedBy (c.languages.flatMap fun l => [.accept .language l.tag]) ++
      acceptedBy (c.editors.flatMap editorActions) := by
  have listed : acceptedBy (c.languages.flatMap listedUsers) = [] := by
    simp [acceptedBy_flatMap, listedUsers]
  have nested : acceptedBy ((nestedLanguages c).flatMap (nestedUsers c)) = [] := by
    simp [acceptedBy_flatMap]
  rw [actions, acceptedBy_append, acceptedBy_append, acceptedBy_append, listed, nested,
    List.append_nil, List.append_nil, List.map_eq_flatMap]

end Completions

def Action.touched? : Action → Option EntityKey
  | .add key _ => some key
  | .raise key _ _ => some key
  | _ => none

def touchedBy (actions : List Action) : List EntityKey := actions.filterMap Action.touched?

def keptBy (actions : List Action) : List EntityKey :=
  (acceptedBy actions).filterMap fun entry => entryKey? entry.1 entry.2

section Touched

variable {key : EntityKey}

@[simp] theorem touchedBy_nil : touchedBy [] = [] := rfl

@[simp] theorem touchedBy_accept (dimension : Dimension) (t : Tag) (rest : List Action) :
    touchedBy (.accept dimension t :: rest) = touchedBy rest := rfl

@[simp] theorem touchedBy_append (first second : List Action) :
    touchedBy (first ++ second) = touchedBy first ++ touchedBy second :=
  List.filterMap_append

@[simp] theorem touchedBy_addTo (key? : Option EntityKey) (amounts : List (Counter × Nat)) :
    touchedBy (addTo key? amounts) = key?.toList := by
  cases key? <;> rfl

@[simp] theorem touchedBy_markCustom (key? : Option EntityKey) (isCustom : Bool) :
    touchedBy (markCustom key? isCustom) = [] := by
  cases key? <;> cases isCustom <;> rfl

theorem touchedBy_flatMap {β : Type} (actions : β → List Action) (entries : List β) :
    touchedBy (entries.flatMap actions) = entries.flatMap fun entry => touchedBy (actions entry) :=
  List.filterMap_flatMap

@[simp] theorem keptBy_nil : keptBy [] = [] := rfl

@[simp] theorem keptBy_accept (dimension : Dimension) (t : Tag) (rest : List Action) :
    keptBy (.accept dimension t :: rest) = (entryKey? dimension t).toList ++ keptBy rest := by
  rw [keptBy, acceptedBy_accept, List.filterMap_cons]
  cases entryKey? dimension t <;> rfl

@[simp] theorem keptBy_append (first second : List Action) :
    keptBy (first ++ second) = keptBy first ++ keptBy second := by
  rw [keptBy, acceptedBy_append, List.filterMap_append]
  rfl

@[simp] theorem keptBy_addTo (key? : Option EntityKey) (amounts : List (Counter × Nat)) :
    keptBy (addTo key? amounts) = [] := by
  rw [keptBy, acceptedBy_addTo]
  rfl

@[simp] theorem keptBy_markCustom (key? : Option EntityKey) (isCustom : Bool) :
    keptBy (markCustom key? isCustom) = [] := by
  rw [keptBy, acceptedBy_markCustom]
  rfl

theorem keptBy_flatMap {β : Type} (actions : β → List Action) (entries : List β) :
    keptBy (entries.flatMap actions) = entries.flatMap fun entry => keptBy (actions entry) := by
  rw [keptBy, acceptedBy_flatMap, List.filterMap_flatMap]
  rfl

theorem or_exists_absorb {α : Type} {P : Prop} {Q : α → Prop} {xs : List α} :
    (P ∨ ∃ x ∈ xs, P ∨ Q x) ↔ P ∨ ∃ x ∈ xs, Q x := by
  constructor
  · rintro (known | ⟨x, member, known | other⟩)
    · exact .inl known
    · exact .inl known
    · exact .inr ⟨x, member, other⟩
  · rintro (known | ⟨x, member, other⟩)
    · exact .inl known
    · exact .inr ⟨x, member, .inr other⟩

theorem mem_touchedBy_flatMap {β : Type} {actions : β → List Action} {entries : List β}
    (each : ∀ entry, key ∈ touchedBy (actions entry) ↔ key ∈ keptBy (actions entry)) :
    key ∈ touchedBy (entries.flatMap actions) ↔ key ∈ keptBy (entries.flatMap actions) := by
  simp only [touchedBy_flatMap, keptBy_flatMap, List.mem_flatMap, each]

namespace Completions

theorem mem_touchedBy_editorActions (e : CompletionEditor) :
    key ∈ touchedBy (editorActions e) ↔ key ∈ keptBy (editorActions e) := by
  -- What is nested counts for the editor again and again, but the editor is accepted only once.
  by_cases own : entryKey? .editor e.tag = some key
  · simp [editorActions, own]
  · simp [editorActions, modelActions, languageActions, touchedBy_flatMap, keptBy_flatMap, own,
      or_exists_absorb]

theorem mem_touchedBy_listedUsers (c : Completions) :
    key ∈ touchedBy (c.languages.flatMap listedUsers) ↔
      key ∈ keptBy (c.languages.map fun l => .accept .language l.tag) := by
  simp [touchedBy_flatMap, keptBy_flatMap, List.map_eq_flatMap, listedUsers]

theorem touchedBy_nestedUsers (c : Completions) :
    touchedBy ((nestedLanguages c).flatMap (nestedUsers c)) ⊆
      keptBy (c.editors.flatMap editorActions) := by
  intro key member
  rw [touchedBy_flatMap] at member
  obtain ⟨l, nested, member⟩ := List.mem_flatMap.mp member
  have own : entryKey? .language l.tag = some key := by
    unfold nestedUsers at member
    cases found : entryKey? .language l.tag with
    | none => simp [found, touchedBy] at member
    | some other =>
      simp only [found] at member
      split at member
      · cases member
      · rw [List.mem_singleton.mp member]
  -- The language was accepted below the editor and the model that list it.
  simp only [nestedLanguages, List.mem_flatMap] at nested
  obtain ⟨e, editor, m, model, language⟩ := nested
  simp only [keptBy_flatMap, editorActions, modelActions, languageActions, List.mem_flatMap,
    keptBy_accept, keptBy_append, keptBy_addTo, keptBy_markCustom, List.mem_append]
  exact ⟨e, editor, .inr ⟨m, model, .inr ⟨l, language, by simp [own]⟩⟩⟩

theorem mem_touchedBy_actions (c : Completions) :
    key ∈ touchedBy (actions c) ↔ key ∈ keptBy (actions c) := by
  have silent : touchedBy (c.languages.map fun l => .accept .language l.tag) = [] := by
    simp [List.map_eq_flatMap, touchedBy_flatMap]
  have kept : keptBy (actions c) = keptBy (c.languages.map fun l => .accept .language l.tag) ++
      keptBy (c.editors.flatMap editorActions) := by
    rw [keptBy, acceptedBy_actions, List.filterMap_append, ← List.map_eq_flatMap]
    rfl
  have editors : key ∈ touchedBy (c.editors.flatMap editorActions) ↔
      key ∈ keptBy (c.editors.flatMap editorActions) :=
    mem_touchedBy_flatMap mem_touchedBy_editorActions
  rw [kept, actions, touchedBy_append, touchedBy_append, touchedBy_append, silent, List.nil_append,
    List.mem_append, List.mem_append, List.mem_append, editors, mem_touchedBy_listedUsers]
  constructor
  · rintro ((editor | listed) | nested)
    · exact .inr editor
    · exact .inl listed
    · exact .inr (touchedBy_nestedUsers c nested)
  · rintro (listed | editor)
    · exact .inl (.inr listed)
    · exact .inl (.inl editor)

end Completions

namespace IdeChat

theorem mem_touchedBy_editorActions (e : ChatEditor) :
    key ∈ touchedBy (editorActions e) ↔ key ∈ keptBy (editorActions e) := by
  by_cases own : entryKey? .editor e.tag = some key
  · simp [editorActions, own]
  · simp [editorActions, modelActions, touchedBy_flatMap, keptBy_flatMap, own]

end IdeChat

namespace DotcomChat

theorem mem_touchedBy_modelActions (m : DotcomChatModel) :
    key ∈ touchedBy (modelActions m) ↔ key ∈ keptBy (modelActions m) := by
  simp [modelActions]

end DotcomChat

namespace PullRequests

theorem mem_touchedBy_repositoryActions (r : Repository) :
    key ∈ touchedBy (repositoryActions r) ↔ key ∈ keptBy (repositoryActions r) := by
  by_cases own : entryKey? .repository r.tag = some key
  · simp [repositoryActions, own]
  · simp [repositoryActions, modelActions, touchedBy_flatMap, keptBy_flatMap, own]

end PullRequests

theorem mem_touchedBy_groupFeed (r : DailyRecord) (group : MetricGroup) :
    key ∈ touchedBy (groupFeed r group).actions ↔ key ∈ keptBy (groupFeed r group).actions := by
  cases group with
  | codeCompletions => exact Completions.mem_touchedBy_actions r.completions
  | ideChat => exact mem_touchedBy_flatMap IdeChat.mem_touchedBy_editorActions
  | dotcomChat => exact mem_touchedBy_flatMap DotcomChat.mem_touchedBy_modelActions
  | pullRequests => exact mem_touchedBy_flatMap PullRequests.mem_touchedBy_repositoryActions

end Touched

namespace Breakdown

theorem mem_keys_recount (actions : List Action) (counts : Ledger EntityKey Bucket)
    (key : EntityKey) : key ∈ (actions.foldl Action.recount counts).keys ↔
      key ∈ counts.keys ∨ key ∈ touchedBy actions := by
  induction actions generalizing counts with
  | nil => simp [touchedBy]
  | cons action rest ih =>
    rw [List.foldl_cons, ih]
    cases action <;>
      simp [Action.recount, touchedBy, Action.touched?, Ledger.mem_keys_upsert, or_assoc,
        or_left_comm]

theorem mem_keys_run (group : MetricGroup) (day : String) (actions : List Action)
    (key : EntityKey) : key ∈ (run group day actions).counts.keys ↔ key ∈ touchedBy actions := by
  rw [counts_run, mem_keys_recount]
  exact or_iff_right List.not_mem_nil

theorem mem_entities (group : MetricGroup) (day : String) (actions : List Action)
    (dimension : Dimension) (name : String) :
    (∃ e ∈ (run group day actions).entities group, e.dimension = dimension ∧ e.name = name) ↔
      (dimension, name) ∈ touchedBy actions := by
  rw [← mem_keys_run group day, Ledger.keys, entities]
  simp only [List.mem_map, exists_exists_and_eq_and, Prod.ext_iff]

end Breakdown

end UsageMetrics.Daily
