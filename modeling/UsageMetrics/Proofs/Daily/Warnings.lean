import UsageMetrics.Proofs.Daily.Accepted
import UsageMetrics.Proofs.Daily.Isolation
import UsageMetrics.Proofs.Feed.Entries

namespace UsageMetrics.Daily

open UsageMetrics.Calendar UsageMetrics.Metric UsageMetrics.Feed

@[simp] theorem listDimension_languages : listDimension "languages" = .language := rfl

@[simp] theorem listDimension_editors : listDimension "editors" = .editor := rfl

@[simp] theorem listDimension_models : listDimension "models" = .model := rfl

@[simp] theorem listDimension_repositories : listDimension "repositories" = .repository := rfl

end UsageMetrics.Daily

namespace UsageMetrics.Feed.GivenEntry

open UsageMetrics.Metric UsageMetrics.Daily

def dimension (entry : GivenEntry) : Dimension := listDimension entry.list

def Unclaimed (entry : GivenEntry) : Prop := entry.given.lookup repairedKey = none

theorem Unclaimed.tag {entry : GivenEntry} (unclaimed : entry.Unclaimed) :
    entry.tag = ⟨textUnder entry.given "name", entry.malformed⟩ := by
  rw [GivenEntry.tag, repairedOf_unclaimed _ unclaimed]
  rfl

def accepted (entry : GivenEntry) : Dimension × Tag := (entry.dimension, entry.tag)

end UsageMetrics.Feed.GivenEntry

namespace UsageMetrics.Daily

open UsageMetrics.Calendar UsageMetrics.Metric UsageMetrics.Feed

/-- Of an entry as it is read, the entry itself and all that are nested in it are accepted, each
once. -/
def AcceptsEntries {β : Type} (shape : Shape) (key : String) (view : Record → β)
    (actions : β → List Action) : Prop :=
  ∀ element : Value, acceptedBy (actions (view (shape.readElement element).1)) =
    (shape.entries key element).map GivenEntry.accepted

section AcceptsEntries

variable {β γ : Type} {shape inner : Shape} {key list : String}

theorem AcceptsEntries.many (shape : Shape) {view : Record → β} {actions : β → List Action}
    (declared : shape.fields.lookup list = some (.many inner))
    (each : AcceptsEntries inner list view actions) (element : Value) :
    acceptedBy ((((shape.readElement element).1.many list).map view).flatMap actions) =
      ((Kind.many inner).entries list (listUnder element.given list)).map GivenEntry.accepted := by
  rw [entries_many, many_readElement declared, List.map_map, List.flatMap_map, acceptedBy_flatMap,
    List.map_flatMap]
  exact List.flatMap_congr fun nested _ => each nested

theorem accepts_entry (named : shape.fields.lookup "name" = some .text) {element : Value}
    {nested : List (Dimension × Tag)}
    (inside : nested = (entriesIn shape.fields element.given).map GivenEntry.accepted) :
    (listDimension key, (shape.readElement element).1.tag) :: nested =
      (shape.entries key element).map GivenEntry.accepted := by
  rw [tag_readElement key named, inside]
  rfl

theorem AcceptsEntries.leaf {view : Record → β} {actions : β → List Action}
    (named : shape.fields.lookup "name" = some .text)
    (childless : ∀ given, entriesIn shape.fields given = [])
    (own : ∀ r, acceptedBy (actions (view r)) = [(listDimension key, r.tag)]) :
    AcceptsEntries shape key view actions := by
  intro element
  rw [own]
  exact accepts_entry named (by rw [childless]; rfl)

theorem AcceptsEntries.parent {view : Record → β} {actions : β → List Action}
    {nestedView : Record → γ} {nestedActions : Option EntityKey → γ → List Action}
    (named : shape.fields.lookup "name" = some .text)
    (declared : shape.fields.lookup list = some (.many inner))
    (sole : ∀ given, entriesIn shape.fields given =
      (Kind.many inner).entries list (listUnder given list))
    (each : ∀ key?, AcceptsEntries inner list nestedView (nestedActions key?))
    (own : ∀ r, acceptedBy (actions (view r)) = (listDimension key, r.tag) ::
      acceptedBy (((r.many list).map nestedView).flatMap
        (nestedActions (entryKey? (listDimension key) r.tag)))) :
    AcceptsEntries shape key view actions := by
  intro element
  rw [own]
  exact accepts_entry named (by rw [sole, (each _).many shape declared])

end AcceptsEntries

namespace Completions

theorem languageActions_accepts (editorKey? modelKey? : Option EntityKey) :
    AcceptsEntries .languageActivity "languages" Record.languageActivity
      (languageActions editorKey? modelKey?) :=
  .leaf rfl (fun _ => rfl) fun r => by
    simp [languageActions, Record.languageActivity]

theorem modelActions_accepts (editorKey? : Option EntityKey) :
    AcceptsEntries .completionModel "models" Record.completionModel (modelActions editorKey?) :=
  .parent rfl rfl (fun _ => List.append_nil _) (languageActions_accepts editorKey?) fun r => by
    simp [modelActions, Record.completionModel]

theorem editorActions_accepts :
    AcceptsEntries .completionEditor "editors" Record.completionEditor editorActions :=
  .parent rfl rfl (fun _ => List.append_nil _) modelActions_accepts fun r => by
    simp [editorActions, Record.completionEditor]

theorem accepts_language :
    AcceptsEntries .languageUsers "languages" Record.languageUsers
      fun l => [.accept .language l.tag] :=
  .leaf rfl (fun _ => rfl) fun _ => rfl

end Completions

namespace IdeChat

theorem modelActions_accepts (editorKey? : Option EntityKey) :
    AcceptsEntries .chatModel "models" Record.chatModel (modelActions editorKey?) :=
  .leaf rfl (fun _ => rfl) fun r => by simp [modelActions, Record.chatModel]

theorem editorActions_accepts :
    AcceptsEntries .chatEditor "editors" Record.chatEditor editorActions :=
  .parent rfl rfl (fun _ => List.append_nil _) modelActions_accepts fun r => by
    simp [editorActions, Record.chatEditor]

end IdeChat

namespace DotcomChat

theorem modelActions_accepts :
    AcceptsEntries .dotcomChatModel "models" Record.dotcomChatModel modelActions :=
  .leaf rfl (fun _ => rfl) fun r => by simp [modelActions, Record.dotcomChatModel]

end DotcomChat

namespace PullRequests

theorem modelActions_accepts (repositoryKey? : Option EntityKey) :
    AcceptsEntries .pullRequestModel "models" Record.pullRequestModel
      (modelActions repositoryKey?) :=
  .leaf rfl (fun _ => rfl) fun r => by simp [modelActions, Record.pullRequestModel]

theorem repositoryActions_accepts :
    AcceptsEntries .repository "repositories" Record.repository repositoryActions :=
  .parent rfl rfl (fun _ => List.append_nil _) modelActions_accepts fun r => by
    simp [repositoryActions, Record.repository]

end PullRequests

def groupValue (given : List (String × Value)) (group : MetricGroup) : Value :=
  (Value.at? given (recordKey group)).getD .null

def groupEntries (given : List (String × Value)) (group : MetricGroup) : List GivenEntry :=
  entriesIn (groupShape group).fields (groupValue given group).given

/-- The malformed fields of a group. Its own value is one of them if there is one, which a null is
not, and it is no record. -/
def groupMalformed (given : List (String × Value)) (group : MetricGroup) : List String :=
  malformed (groupShape group).fields (groupValue given group).given ++
    if (Value.at? given (recordKey group)).any fun value => !value.isRecord then [recordKey group]
    else []

def groupWarning? (day : String) (given : List (String × Value)) (group : MetricGroup) :
    Option Warning :=
  if groupMalformed given group = [] then none
  else some ⟨group.label, none, some day, none, groupMalformed given group⟩

/-- An entry without a name is reported without its malformed fields, for it is dropped. -/
def entryWarning? (day : String) (group : MetricGroup) (entry : GivenEntry) : Option Warning :=
  match entry.name? with
  | none => some ⟨group.label, some entry.dimension.label, some day, none, []⟩
  | some name =>
    if entry.malformed = [] then none
    else some ⟨group.label, some entry.dimension.label, some day, some name, entry.malformed⟩

def warningsOf (day : String) (given : List (String × Value)) : List Warning :=
  MetricGroup.all.flatMap fun group =>
    (groupWarning? day given group).toList ++
      (groupEntries given group).filterMap (entryWarning? day group)

def recordsOf (given : List (String × Value)) : List (List (String × Value)) :=
  given :: MetricGroup.all.flatMap fun group =>
    (groupValue given group).given :: (groupEntries given group).map GivenEntry.given

theorem entryKey?_tag (entry : GivenEntry) :
    entryKey? entry.dimension entry.tag = entry.name?.map fun name => (entry.dimension, name) := by
  unfold entryKey? GivenEntry.name? GivenEntry.tag
  cases textUnder entry.given "name" with
  | none => rfl
  | some name => cases blank : Text.allBlank name <;> simp [Option.filter, blank]

theorem warningsOn_tag (group : MetricGroup) (day : String) {entry : GivenEntry}
    (unclaimed : entry.Unclaimed) :
    Breakdown.warningsOn group day entry.dimension entry.tag =
      (entryWarning? day group entry).toList := by
  rw [Breakdown.warningsOn, entryKey?_tag, entryWarning?]
  cases entry.name? with
  | none => rfl
  | some name =>
    cases reset : entry.malformed with
    | nil => simp [unclaimed.tag, reset]
    | cons => simp [unclaimed.tag, reset]

section Group

variable {given : List (String × Value)} {group : MetricGroup}

theorem one_group (given : List (String × Value)) (group : MetricGroup) :
    (Shape.daily.read (.object given)).1.one (recordKey group) =
      ((groupShape group).readElement (groupValue given group)).1 := by
  cases group <;> exact one_read rfl given

theorem acceptedBy_list {inner : Shape} {list : String} {β : Type} {view : Record → β}
    {actions : β → List Action} (each : AcceptsEntries inner list view actions)
    (declared : (groupShape group).fields.lookup list = some (.many inner))
    (sole : ∀ given, entriesIn (groupShape group).fields given =
      (Kind.many inner).entries list (listUnder given list))
    (collects : ∀ r : Record, (groupFeed r.daily group).actions =
      (((r.one (recordKey group)).many list).map view).flatMap actions) :
    acceptedBy (groupFeed (Shape.daily.read (.object given)).1.daily group).actions =
      (groupEntries given group).map GivenEntry.accepted := by
  have listed : groupEntries given group =
      (Kind.many inner).entries list (listUnder (groupValue given group).given list) := sole _
  rw [listed, collects, one_group]
  exact each.many (groupShape group) declared _

theorem acceptedBy_groupFeed (given : List (String × Value)) (group : MetricGroup) :
    acceptedBy (groupFeed (Shape.daily.read (.object given)).1.daily group).actions =
      (groupEntries given group).map GivenEntry.accepted := by
  cases group with
  | codeCompletions =>
    have both : groupEntries given .codeCompletions =
        (Kind.many .languageUsers).entries "languages"
            (listUnder (groupValue given .codeCompletions).given "languages") ++
          (Kind.many .completionEditor).entries "editors"
            (listUnder (groupValue given .codeCompletions).given "editors") :=
      congrArg _ (List.append_nil _)
    rw [both, List.map_append,
      ← Completions.accepts_language.many (groupShape .codeCompletions) rfl,
      ← Completions.editorActions_accepts.many (groupShape .codeCompletions) rfl, ← one_group]
    exact Completions.acceptedBy_actions _
  | ideChat =>
    exact acceptedBy_list IdeChat.editorActions_accepts rfl (fun _ => List.append_nil _)
      (fun _ => rfl)
  | dotcomChat =>
    exact acceptedBy_list DotcomChat.modelActions_accepts rfl (fun _ => List.append_nil _)
      (fun _ => rfl)
  | pullRequests =>
    exact acceptedBy_list PullRequests.repositoryActions_accepts rfl (fun _ => List.append_nil _)
      (fun _ => rfl)

theorem contains_malformed (fields : List (String × Kind)) (given : List (String × Value))
    (key : String) : (malformed fields given).contains key = fields.any fun field =>
      key == field.1 && (Value.at? given field.1).any fun value => !field.2.admits value := by
  rw [malformed, List.contains_eq_any_beq, List.any_map, List.any_filter]
  congr 1
  funext field
  rw [Bool.and_comm]
  cases Value.at? given field.1 <;> rfl

theorem contains_recordKey (given : List (String × Value)) (group : MetricGroup) :
    (malformed Shape.daily.fields given).contains (recordKey group) =
      (Value.at? given (recordKey group)).any fun value => !value.isRecord := by
  rw [contains_malformed]
  cases group <;> simp [Shape.daily, Shape.fields, recordKey, Kind.admits]

theorem groupFeed_repaired (r : Record) (group : MetricGroup) :
    (groupFeed r.daily group).repaired = (r.one (recordKey group)).repaired := by
  cases group <;> rfl

theorem groupRepairs_read (unclaimed : given.lookup repairedKey = none)
    (own : (groupValue given group).given.lookup repairedKey = none) :
    groupRepairs (Shape.daily.read (.object given)).1.daily
        (groupFeed (Shape.daily.read (.object given)).1.daily group) =
      groupMalformed given group := by
  have whole : (Shape.daily.read (.object given)).1.daily.repaired =
      malformed Shape.daily.fields given := repaired_read .daily unclaimed
  rw [groupRepairs, groupFeed_repaired, groupFeed_field, one_group,
    repaired_readElement (groupShape group), repairedOf_unclaimed _ own, whole,
    contains_recordKey, groupMalformed]

theorem normalizeGroup_warnings (day : String) (unclaimed : given.lookup repairedKey = none)
    (own : (groupValue given group).given.lookup repairedKey = none)
    (below : ∀ entry ∈ groupEntries given group, entry.Unclaimed) :
    (normalizeGroup (Shape.daily.read (.object given)).1.daily day group).2 =
      (groupWarning? day given group).toList ++
        (groupEntries given group).filterMap (entryWarning? day group) := by
  have nested : (Breakdown.run group day
      (groupFeed (Shape.daily.read (.object given)).1.daily group).actions).warnings =
        (groupEntries given group).filterMap (entryWarning? day group) := by
    rw [Breakdown.warnings_run, acceptedBy_groupFeed, List.flatMap_map,
      List.filterMap_eq_flatMap_toList]
    exact List.flatMap_congr fun entry member => warningsOn_tag group day (below entry member)
  simp only [normalizeGroup, groupRepairs_read unclaimed own, nested, groupWarning?,
    List.isEmpty_iff]
  by_cases clean : groupMalformed given group = [] <;> simp [clean]

end Group

theorem warnings_normalizeOn (day : Day) (r : DailyRecord) :
    (normalizeOn day r).2 =
      MetricGroup.all.flatMap fun group => (normalizeGroup r day.iso group).2 := by
  simp only [normalizeOn, ofGroups, List.flatMap_map]

theorem mem_touchedBy_read (given : List (String × Value)) (group : MetricGroup)
    (dimension : Dimension) (name : String) :
    (dimension, name) ∈
        touchedBy (groupFeed (Shape.daily.read (.object given)).1.daily group).actions ↔
      ∃ entry ∈ groupEntries given group, entry.dimension = dimension ∧
        entry.name? = some name := by
  refine (mem_touchedBy_groupFeed _ group).trans ?_
  rw [keptBy, acceptedBy_groupFeed, List.filterMap_map, List.mem_filterMap]
  refine exists_congr fun entry => and_congr_right fun _ => ?_
  have key := entryKey?_tag entry
  simp only [Function.comp_def, GivenEntry.accepted, key, Option.map_eq_some_iff, Prod.mk.injEq]
  constructor
  · intro known
    obtain ⟨_, named, same, rfl⟩ := known
    exact ⟨same, named⟩
  · intro known
    exact ⟨name, known.2, known.1, rfl⟩

theorem mem_entities_normalizeGroup (day : String) (given : List (String × Value))
    (group : MetricGroup) (dimension : Dimension) (name : String) :
    (∃ e ∈ (normalizeGroup (Shape.daily.read (.object given)).1.daily day group).1.entities,
        e.dimension = dimension ∧ e.name = name) ↔
      ∃ entry ∈ groupEntries given group, entry.dimension = dimension ∧
        entry.name? = some name :=
  (Breakdown.mem_entities group day _ dimension name).trans (mem_touchedBy_read given group _ _)

/-- Every malformed part of a record is reported, and reported once; of the entries just those
without a name are dropped. -/
theorem normalize_reports {given : List (String × Value)} {s : Snapshot} {ws : List Warning}
    (accepted : normalize (.object given) = .ok (s, ws))
    (unclaimed : ∀ record ∈ recordsOf given, record.lookup repairedKey = none) :
    ws = warningsOf s.day.iso given ∧ ∀ group dimension name,
      (∃ e ∈ (s.listed group).entities, e.dimension = dimension ∧ e.name = name) ↔
        ∃ entry ∈ groupEntries given group, entry.dimension = dimension ∧
          entry.name? = some name := by
  obtain ⟨record, day, read, dated, made⟩ := normalize_ok accepted
  obtain ⟨-, rfl⟩ := readDaily_object.mp read
  have dayOf : s.day = day := congrArg (fun result => result.1.day) made
  have told := (congrArg Prod.snd made).trans (warnings_normalizeOn day _)
  have listed (group : MetricGroup) :=
    (congrArg (fun result => result.1.listed group) made).trans (listed_normalizeOn day _ group)
  obtain ⟨whole, groups⟩ := List.forall_mem_cons.mp unclaimed
  have each (group : MetricGroup) : (groupValue given group).given.lookup repairedKey = none ∧
      ∀ entry ∈ groupEntries given group, entry.Unclaimed := by
    have all : group ∈ MetricGroup.all := by cases group <;> decide
    obtain ⟨own, below⟩ := List.forall_mem_cons.mp (List.forall_mem_flatMap.mp groups group all)
    exact ⟨own, fun entry member => below _ (List.mem_map_of_mem member)⟩
  constructor
  · refine told.trans (List.flatMap_congr fun group _ => ?_)
    rw [dayOf]
    exact normalizeGroup_warnings day.iso whole (each group).1 (each group).2
  · intro group dimension name
    rw [listed]
    exact mem_entities_normalizeGroup day.iso given group dimension name

def scribbledGroups : List (String × Value) :=
  [("date", .text "2025-01-01"), ("total_active_users", .text "many"),
    ("copilot_ide_chat", .object [("total_engaged_users", .integer (-1)),
      ("editors", .list [.integer 7, .object [("name", .text " "), ("models", .list
        [.object [("name", .text "m"), ("total_chats", .bool true),
            ("is_custom_model", .integer 2)],
          .object [("name", .text "n")]])]])]),
    ("copilot_dotcom_chat", .text "none")]

theorem scribbledGroups_reports : ∃ s ws, normalize (.object scribbledGroups) = .ok (s, ws) ∧
    (∀ record ∈ recordsOf scribbledGroups, record.lookup repairedKey = none) ∧ ws.length = 5 ∧
      ws = warningsOf s.day.iso scribbledGroups ∧ ∀ group dimension name,
        (∃ e ∈ (s.listed group).entities, e.dimension = dimension ∧ e.name = name) ↔
          ∃ entry ∈ groupEntries scribbledGroups group, entry.dimension = dimension ∧
            entry.name? = some name := by
  have accepted : (normalize (.object scribbledGroups)).toOption.map (fun made => made.2.length) =
      some 5 := by decide
  have unclaimed : ∀ record ∈ recordsOf scribbledGroups, record.lookup repairedKey = none := by
    decide
  cases made : normalize (.object scribbledGroups) with
  | error refusal => rw [made] at accepted; cases accepted
  | ok result =>
    rw [made] at accepted
    exact ⟨result.1, result.2, rfl, unclaimed, Option.some.inj accepted,
      normalize_reports made unclaimed⟩

end UsageMetrics.Daily
