import Mathlib.Logic.Relation
import UsageMetrics.Proofs.Daily.Intake
import UsageMetrics.Proofs.Feed.Trimming

namespace UsageMetrics.Feed

variable {f : List String → List String}

def Tag.mapRepaired (f : List String → List String) (t : Tag) : Tag :=
  { t with repaired := f t.repaired }

namespace Record

theorem find?_mapRepaired (r : Record) (name : String) :
    (r.mapRepaired f).find? name = (r.find? name).map (Field.mapRepaired f) := by
  obtain ⟨repaired, fields⟩ := r
  simp only [Record.mapRepaired, find?, Record.fields, mapRepairedFields_eq]
  induction fields with
  | nil => rfl
  | cons field rest ih =>
    rw [List.map_cons, List.lookup_cons, List.lookup_cons]
    split
    · rfl
    · exact ih

@[simp] theorem text_mapRepaired (r : Record) (name : String) :
    (r.mapRepaired f).text name = r.text name := by
  simp only [text, find?_mapRepaired]
  cases r.find? name with
  | none => rfl
  | some field => cases field <;> rfl

@[simp] theorem count_mapRepaired (r : Record) (name : String) :
    (r.mapRepaired f).count name = r.count name := by
  simp only [count, find?_mapRepaired]
  cases r.find? name with
  | none => rfl
  | some field => cases field <;> rfl

@[simp] theorem flag_mapRepaired (r : Record) (name : String) :
    (r.mapRepaired f).flag name = r.flag name := by
  simp only [flag, find?_mapRepaired]
  cases r.find? name with
  | none => rfl
  | some field => cases field <;> rfl

theorem many_mapRepaired (r : Record) (name : String) :
    (r.mapRepaired f).many name = (r.many name).map (Record.mapRepaired f) := by
  simp only [many, find?_mapRepaired]
  cases r.find? name with
  | none => rfl
  | some field =>
    cases field with
    | many records => exact mapRepairedAll_eq records
    | _ => rfl

theorem one_mapRepaired (nothing : f [] = []) (r : Record) (name : String) :
    (r.mapRepaired f).one name = (r.one name).mapRepaired f := by
  have blank : Record.blank = Record.blank.mapRepaired f := by
    rw [Record.blank, Record.mapRepaired, nothing, mapRepairedFields]
  simp only [one, find?_mapRepaired]
  cases r.find? name with
  | none => exact blank
  | some field => cases field <;> first | rfl | exact blank

theorem repaired_mapRepaired (r : Record) : (r.mapRepaired f).repaired = f r.repaired := by
  obtain ⟨repaired, fields⟩ := r
  rfl

@[simp] theorem tag_mapRepaired (r : Record) : (r.mapRepaired f).tag = r.tag.mapRepaired f := by
  rw [tag, text_mapRepaired, repaired_mapRepaired]
  rfl

end Record

end UsageMetrics.Feed

namespace UsageMetrics.Daily

open UsageMetrics.Calendar UsageMetrics.Metric UsageMetrics.Feed

variable {f : List String → List String}

def Action.mapRepaired (f : List String → List String) : Action → Action
  | .accept dimension tag => .accept dimension (tag.mapRepaired f)
  | action => action

@[simp] theorem entryKey?_mapRepaired (dimension : Dimension) (t : Tag) :
    entryKey? dimension (t.mapRepaired f) = entryKey? dimension t := rfl

@[simp] theorem addTo_mapRepaired (key? : Option EntityKey) (amounts : List (Counter × Nat)) :
    (addTo key? amounts).map (Action.mapRepaired f) = addTo key? amounts := by
  cases key? <;> rfl

@[simp] theorem markCustom_mapRepaired (key? : Option EntityKey) (isCustom : Bool) :
    (markCustom key? isCustom).map (Action.mapRepaired f) = markCustom key? isCustom := by
  cases key? <;> cases isCustom <;> rfl

theorem flatMap_mapRepaired {β : Type} {g : Record → β} {h : β → List Action}
    (each : ∀ r : Record, h (g (r.mapRepaired f)) = (h (g r)).map (Action.mapRepaired f))
    (r : Record) (name : String) :
    (((r.mapRepaired f).many name).map g).flatMap h =
      (((r.many name).map g).flatMap h).map (Action.mapRepaired f) := by
  rw [Record.many_mapRepaired, List.map_map, List.flatMap_map, List.flatMap_map, List.map_flatMap]
  exact List.flatMap_congr fun r _ => each r

namespace Completions

theorem languageActions_mapRepaired (editorKey? modelKey? : Option EntityKey) (r : Record) :
    languageActions editorKey? modelKey? (r.mapRepaired f).languageActivity =
      (languageActions editorKey? modelKey? r.languageActivity).map (Action.mapRepaired f) := by
  simp [languageActions, amounts, Record.languageActivity, Action.mapRepaired]

theorem modelActions_mapRepaired (editorKey? : Option EntityKey) (r : Record) :
    modelActions editorKey? (r.mapRepaired f).completionModel =
      (modelActions editorKey? r.completionModel).map (Action.mapRepaired f) := by
  have languages (modelKey? : Option EntityKey) :=
    flatMap_mapRepaired (f := f) (languageActions_mapRepaired editorKey? modelKey?) r "languages"
  simp [modelActions, Record.completionModel, Record.users, Record.isCustom, Action.mapRepaired,
    languages]

theorem editorActions_mapRepaired (r : Record) :
    editorActions (r.mapRepaired f).completionEditor =
      (editorActions r.completionEditor).map (Action.mapRepaired f) := by
  have models (editorKey? : Option EntityKey) :=
    flatMap_mapRepaired (f := f) (modelActions_mapRepaired editorKey?) r "models"
  simp [editorActions, Record.completionEditor, Record.users, Action.mapRepaired, models]

theorem listedKeys_mapRepaired (r : Record) :
    listedKeys (r.mapRepaired f).completions = listedKeys r.completions := by
  simp only [listedKeys, Record.completions, Record.many_mapRepaired, List.map_map,
    List.filterMap_map]
  congr 1
  funext l
  simp [Record.languageUsers]

theorem nestedUsers_mapRepaired (c : Completions) (l : Record) :
    nestedUsers c (l.mapRepaired f).languageActivity =
      (nestedUsers c l.languageActivity).map (Action.mapRepaired f) := by
  simp only [nestedUsers, Record.languageActivity, Record.tag_mapRepaired, entryKey?_mapRepaired,
    Record.users, Record.count_mapRepaired]
  cases entryKey? .language l.tag with
  | none => rfl
  | some key =>
    dsimp only
    split <;> rfl

theorem nestedLanguages_mapRepaired (r : Record) :
    (nestedLanguages (r.mapRepaired f).completions).flatMap
        (nestedUsers (r.mapRepaired f).completions) =
      ((nestedLanguages r.completions).flatMap (nestedUsers r.completions)).map
        (Action.mapRepaired f) := by
  have users : nestedUsers (r.mapRepaired f).completions = nestedUsers r.completions := by
    funext l
    simp only [nestedUsers, listedKeys_mapRepaired]
  simp only [users, nestedLanguages, List.flatMap_assoc]
  refine flatMap_mapRepaired (fun e => ?_) r "editors"
  refine flatMap_mapRepaired (fun m => ?_) e "models"
  exact flatMap_mapRepaired (nestedUsers_mapRepaired r.completions) m "languages"

theorem actions_mapRepaired (r : Record) :
    actions (r.mapRepaired f).completions = (actions r.completions).map (Action.mapRepaired f) := by
  have accepted := flatMap_mapRepaired (f := f) (g := Record.languageUsers)
    (h := fun l => [.accept .language l.tag])
    (fun l => by simp [Record.languageUsers, Action.mapRepaired]) r "languages"
  have editors := flatMap_mapRepaired (f := f) editorActions_mapRepaired r "editors"
  have listed := flatMap_mapRepaired (f := f) (g := Record.languageUsers) (h := listedUsers)
    (fun l => by simp [listedUsers, Record.languageUsers, Record.users]) r "languages"
  simp only [← List.map_eq_flatMap] at accepted
  simp only [actions, List.map_append, nestedLanguages_mapRepaired]
  simp only [Record.completions, accepted, editors, listed]

end Completions

namespace IdeChat

theorem modelActions_mapRepaired (editorKey? : Option EntityKey) (r : Record) :
    modelActions editorKey? (r.mapRepaired f).chatModel =
      (modelActions editorKey? r.chatModel).map (Action.mapRepaired f) := by
  simp [modelActions, amounts, Record.chatModel, Record.users, Record.isCustom, Action.mapRepaired]

theorem editorActions_mapRepaired (r : Record) :
    editorActions (r.mapRepaired f).chatEditor =
      (editorActions r.chatEditor).map (Action.mapRepaired f) := by
  have models (editorKey? : Option EntityKey) :=
    flatMap_mapRepaired (f := f) (modelActions_mapRepaired editorKey?) r "models"
  simp [editorActions, Record.chatEditor, Record.users, Action.mapRepaired, models]

end IdeChat

namespace DotcomChat

theorem modelActions_mapRepaired (r : Record) :
    modelActions (r.mapRepaired f).dotcomChatModel =
      (modelActions r.dotcomChatModel).map (Action.mapRepaired f) := by
  simp [modelActions, Record.dotcomChatModel, Record.users, Record.isCustom, Action.mapRepaired]

end DotcomChat

namespace PullRequests

theorem modelActions_mapRepaired (repositoryKey? : Option EntityKey) (r : Record) :
    modelActions repositoryKey? (r.mapRepaired f).pullRequestModel =
      (modelActions repositoryKey? r.pullRequestModel).map (Action.mapRepaired f) := by
  simp [modelActions, Record.pullRequestModel, Record.users, Record.isCustom, Action.mapRepaired]

theorem repositoryActions_mapRepaired (r : Record) :
    repositoryActions (r.mapRepaired f).repository =
      (repositoryActions r.repository).map (Action.mapRepaired f) := by
  have models (repositoryKey? : Option EntityKey) :=
    flatMap_mapRepaired (f := f) (modelActions_mapRepaired repositoryKey?) r "models"
  simp [repositoryActions, Record.repository, Record.users, Action.mapRepaired, models]

end PullRequests

theorem groupFeed_mapRepaired (nothing : f [] = []) (r : Record) (group : MetricGroup) :
    (groupFeed (r.mapRepaired f).daily group).engagedUsers =
        (groupFeed r.daily group).engagedUsers ∧
      (groupFeed (r.mapRepaired f).daily group).actions =
        (groupFeed r.daily group).actions.map (Action.mapRepaired f) := by
  cases group with
  | codeCompletions =>
    simp only [groupFeed, Record.daily, Record.one_mapRepaired nothing]
    exact ⟨Record.count_mapRepaired _ _, Completions.actions_mapRepaired _⟩
  | ideChat =>
    simp only [groupFeed, Record.daily, Record.one_mapRepaired nothing]
    exact ⟨Record.count_mapRepaired _ _,
      flatMap_mapRepaired IdeChat.editorActions_mapRepaired _ "editors"⟩
  | dotcomChat =>
    simp only [groupFeed, Record.daily, Record.one_mapRepaired nothing]
    exact ⟨Record.count_mapRepaired _ _,
      flatMap_mapRepaired DotcomChat.modelActions_mapRepaired _ "models"⟩
  | pullRequests =>
    simp only [groupFeed, Record.daily, Record.one_mapRepaired nothing]
    exact ⟨Record.count_mapRepaired _ _,
      flatMap_mapRepaired PullRequests.repositoryActions_mapRepaired _ "repositories"⟩

theorem recount_mapRepaired (counts : Ledger EntityKey Bucket) (action : Action) :
    (action.mapRepaired f).recount counts = action.recount counts := by
  cases action <;> rfl

/-- What a group counts does not depend on the repaired fields that its entries list. -/
theorem entities_mapRepaired (group : MetricGroup) (day : String) (actions : List Action) :
    (Breakdown.run group day (actions.map (Action.mapRepaired f))).entities group =
      (Breakdown.run group day actions).entities group := by
  refine Breakdown.entities_run_congr group day ?_ fun key => ?_
  · simp only [List.foldl_map, recount_mapRepaired]
  · rw [List.mem_map]
    constructor
    · intro known
      obtain ⟨action, member, same⟩ := known
      cases action with
      | custom => obtain rfl := Action.custom.inj same; exact member
      | _ => cases same
    · exact fun member => ⟨_, member, rfl⟩

theorem normalizeOn_mapRepaired (nothing : f [] = []) (day : Day) (r : Record) :
    (normalizeOn day (r.mapRepaired f).daily).1 = (normalizeOn day r.daily).1 := by
  have groups (group : MetricGroup) : (normalizeGroup (r.mapRepaired f).daily day.iso group).1 =
      (normalizeGroup r.daily day.iso group).1 := by
    obtain ⟨users, actions⟩ := groupFeed_mapRepaired nothing r group
    simp only [normalizeGroup, Breakdown.snapshot, users, actions, entities_mapRepaired]
  have active : (r.mapRepaired f).daily.activeUsers = r.daily.activeUsers :=
    Record.count_mapRepaired r _
  have engaged : (r.mapRepaired f).daily.engagedUsers = r.daily.engagedUsers :=
    Record.count_mapRepaired r _
  simp only [normalizeOn, ofGroups, List.map_map, Function.comp_def, groups, active, engaged]

theorem normalizeRecord_mapRepaired (nothing : f [] = []) (r : Record) :
    (normalizeRecord (r.mapRepaired f).daily).map Prod.fst =
      (normalizeRecord r.daily).map Prod.fst := by
  have text : (r.mapRepaired f).daily.date = r.daily.date := Record.text_mapRepaired r _
  have dated : readDate (r.mapRepaired f).daily = readDate r.daily := by simp only [readDate, text]
  rw [normalizeRecord, normalizeRecord, dated]
  cases readDate r.daily with
  | error refusal => rfl
  | ok day => exact congrArg Except.ok (normalizeOn_mapRepaired nothing day r)

theorem normalize_trimmedAt {raw other : Value} (trimmed : ChangedAt Trim (.one .daily) raw other) :
    (normalize raw).map Prod.fst = (normalize other).map Prod.fst := by
  have alike := trimmed.alike Trim.alike
  obtain ⟨given, others, rfl, rfl⟩ := trimmed.objects fun trim => by
    cases trim with
    | field => exact ⟨_, _, rfl, rfl⟩
  have read := readDaily_alike alike
  unfold normalize
  generalize readDaily (.object given) = result, readDaily (.object others) = result' at read ⊢
  cases result with
  | error rejection =>
    cases result' with
    | error rejection' => rw [Except.error.inj read]
    | ok record' => cases read
  | ok record =>
    cases result' with
    | error rejection' => cases read
    | ok record' =>
      -- The records differ at most in the repaired fields that they list, so they agree once these
      -- are forgotten on both sides, and a day is made without them.
      have same : record.mapRepaired (fun _ => []) = record'.mapRepaired fun _ => [] :=
        Except.ok.inj read
      have first := normalizeRecord_mapRepaired (f := fun _ => []) rfl record
      have second := normalizeRecord_mapRepaired (f := fun _ => []) rfl record'
      dsimp only
      rw [← first, same, second]

/-- What is reset or has no value makes the same day as what is not there. -/
theorem normalize_trimmed {raw other : Value}
    (trimmed : Relation.ReflTransGen (ChangedAt Trim (.one .daily)) raw other) :
    (normalize raw).map Prod.fst = (normalize other).map Prod.fst := by
  induction trimmed with
  | refl => rfl
  | tail _ trimmed ih => exact ih.trans (normalize_trimmedAt trimmed)

def chatOf (stray : Value) (models : List (String × Value)) : Value :=
  .object [("editors", .list [stray, .object (("name", .text "vim") :: models)])]

theorem normalize_trimmed_chat :
    ((normalize (.object [("date", .text "2025-01-01"), ("total_active_users", .text "many"),
          ("copilot_ide_chat", chatOf (.integer 7) [("models", .null)])])).map Prod.fst =
        (normalize (.object [("date", .text "2025-01-01"),
          ("copilot_ide_chat", chatOf (.object []) [])])).map Prod.fst) ∧
      (normalize (.object [("date", .text "2025-01-01"),
        ("copilot_ide_chat", chatOf (.object []) [])])).isOk = true := by
  have inChat {value other : Value}
      (inner : ChangedAt Trim (.many Shape.chatEditor) value other) :
      ChangedAt Trim (.one .daily)
        (.object [("date", .text "2025-01-01"),
          ("copilot_ide_chat", .object [("editors", value)])])
        (.object [("date", .text "2025-01-01"),
          ("copilot_ide_chat", .object [("editors", other)])]) :=
    .inField rfl (by decide) [_] [] (by decide) (.inField rfl (by decide) [] [] rfl inner)
  have stray (editor : Value) : ChangedAt Trim (.many .chatEditor) (.list [.integer 7, editor])
      (.list [.object [], editor]) :=
    .here (.element [] [editor] rfl rfl rfl)
  have modelless : Trim (.one .chatEditor) (.object [("name", .text "vim"), ("models", .null)])
      (.object [("name", .text "vim")]) :=
    .field (by decide) rfl rfl (.inl rfl) rfl (.erased "models" .null [_] [])
  have nested : ChangedAt Trim (.many .chatEditor)
      (.list [.object [], .object [("name", .text "vim"), ("models", .null)]])
      (.list [.object [], .object [("name", .text "vim")]]) :=
    .element [_] [] rfl rfl (.here modelless)
  refine ⟨normalize_trimmed (.head (.here (.field (by decide) rfl rfl ?_ rfl
    (.erased "total_active_users" _ [_] _))) (.tail (.single (inChat (stray _))) (inChat nested))),
    by decide⟩
  exact .inr (by decide)

end UsageMetrics.Daily
