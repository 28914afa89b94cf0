import UsageMetrics.Proofs.Daily.Intake
import UsageMetrics.Proofs.Feed.Reordering

namespace UsageMetrics.Feed.Record.Reordered

variable {r s : Record}

theorem tag_eq (reordered : r.Reordered s) : r.tag = s.tag := by
  rw [tag, tag, reordered.text_eq, reordered.repaired_eq]

theorem users_eq (reordered : r.Reordered s) : r.users = s.users := reordered.count_eq _

theorem isCustom_eq (reordered : r.Reordered s) : r.isCustom = s.isCustom := reordered.flag_eq _

theorem languageUsers_eq (reordered : r.Reordered s) : r.languageUsers = s.languageUsers := by
  rw [languageUsers, languageUsers, reordered.tag_eq, reordered.users_eq]

theorem languageActivity_eq (reordered : r.Reordered s) :
    r.languageActivity = s.languageActivity := by
  simp only [languageActivity, reordered.tag_eq, reordered.users_eq, reordered.count_eq]

theorem chatModel_eq (reordered : r.Reordered s) : r.chatModel = s.chatModel := by
  simp only [chatModel, reordered.tag_eq, reordered.users_eq, reordered.isCustom_eq,
    reordered.count_eq]

theorem dotcomChatModel_eq (reordered : r.Reordered s) : r.dotcomChatModel = s.dotcomChatModel := by
  simp only [dotcomChatModel, reordered.tag_eq, reordered.users_eq, reordered.isCustom_eq,
    reordered.count_eq]

theorem pullRequestModel_eq (reordered : r.Reordered s) :
    r.pullRequestModel = s.pullRequestModel := by
  simp only [pullRequestModel, reordered.tag_eq, reordered.users_eq, reordered.isCustom_eq,
    reordered.count_eq]

theorem flatMap_many {β γ : Type} (reordered : r.Reordered s) (name : String) {read : Record → β}
    {f : β → List γ} (keeps : ∀ a b : Record, a.Reordered b → (f (read a)).Perm (f (read b))) :
    (((r.many name).map read).flatMap f).Perm (((s.many name).map read).flatMap f) := by
  rw [List.flatMap_map, List.flatMap_map]
  exact (reordered.many name).flatMap_perm keeps

end UsageMetrics.Feed.Record.Reordered

namespace UsageMetrics.Daily

open UsageMetrics.Calendar UsageMetrics.Metric UsageMetrics.Feed

variable {r s : Record}

namespace Completions

theorem modelActions_perm (reordered : r.Reordered s) (editorKey? : Option EntityKey) :
    (modelActions editorKey? r.completionModel).Perm
      (modelActions editorKey? s.completionModel) := by
  simp only [modelActions, Record.completionModel, reordered.tag_eq, reordered.users_eq,
    reordered.isCustom_eq]
  refine List.Perm.append_left _ (reordered.flatMap_many _ fun a b same => ?_)
  rw [same.languageActivity_eq]

theorem editorActions_perm (reordered : r.Reordered s) :
    (editorActions r.completionEditor).Perm (editorActions s.completionEditor) := by
  simp only [editorActions, Record.completionEditor, reordered.tag_eq, reordered.users_eq]
  exact List.Perm.append_left _ (reordered.flatMap_many _ fun a b same =>
    modelActions_perm same _)

theorem languages_perm (reordered : r.Reordered s) :
    r.completions.languages.Perm s.completions.languages :=
  (reordered.many "languages").map_perm fun _ _ same => same.languageUsers_eq

theorem nestedLanguages_perm (reordered : r.Reordered s) :
    (nestedLanguages r.completions).Perm (nestedLanguages s.completions) := by
  refine reordered.flatMap_many _ fun a b same => ?_
  refine same.flatMap_many _ fun c d same => ?_
  exact (same.many "languages").map_perm fun _ _ same => same.languageActivity_eq

theorem nestedUsers_eq (reordered : r.Reordered s) :
    nestedUsers r.completions = nestedUsers s.completions := by
  funext l
  have listed (key : EntityKey) : (listedKeys r.completions).contains key =
      (listedKeys s.completions).contains key := by
    rw [Bool.eq_iff_iff, List.contains_iff_mem, List.contains_iff_mem]
    exact ((languages_perm reordered).filterMap _).mem_iff
  simp only [nestedUsers, listed]

end Completions

namespace IdeChat

theorem editorActions_perm (reordered : r.Reordered s) :
    (editorActions r.chatEditor).Perm (editorActions s.chatEditor) := by
  simp only [editorActions, Record.chatEditor, reordered.tag_eq, reordered.users_eq]
  refine List.Perm.append_left _ (reordered.flatMap_many _ fun a b same => ?_)
  rw [same.chatModel_eq]

end IdeChat

namespace PullRequests

theorem repositoryActions_perm (reordered : r.Reordered s) :
    (repositoryActions r.repository).Perm (repositoryActions s.repository) := by
  simp only [repositoryActions, Record.repository, reordered.tag_eq, reordered.users_eq]
  refine List.Perm.append_left _ (reordered.flatMap_many _ fun a b same => ?_)
  rw [same.pullRequestModel_eq]

end PullRequests

theorem adding_perm (reordered : r.Reordered s) (group : MetricGroup) :
    (adding r.daily group).Perm (adding s.daily group) := by
  cases group with
  | codeCompletions =>
    have completions := reordered.one "copilot_ide_code_completions"
    have languages := Completions.languages_perm completions
    refine ((languages.map _).append ?_).append (languages.flatMap_right _)
    exact completions.flatMap_many _ fun a b same => Completions.editorActions_perm same
  | ideChat =>
    exact (reordered.one "copilot_ide_chat").flatMap_many _ fun a b same =>
      IdeChat.editorActions_perm same
  | dotcomChat =>
    refine (reordered.one "copilot_dotcom_chat").flatMap_many _ fun a b same => ?_
    rw [same.dotcomChatModel_eq]
  | pullRequests =>
    exact (reordered.one "copilot_dotcom_pull_requests").flatMap_many _ fun a b same =>
      PullRequests.repositoryActions_perm same

theorem raising_perm (reordered : r.Reordered s) (group : MetricGroup) :
    (raising r.daily group).Perm (raising s.daily group) := by
  cases group with
  | codeCompletions =>
    have completions := reordered.one "copilot_ide_code_completions"
    have users := Completions.nestedUsers_eq completions
    simp only [raising, Record.daily, users]
    exact (Completions.nestedLanguages_perm completions).flatMap_right _
  | _ => exact List.Perm.refl _

theorem groupFeed_eq (reordered : r.Reordered s) (group : MetricGroup) :
    (groupFeed r.daily group).field = (groupFeed s.daily group).field ∧
      (groupFeed r.daily group).repaired = (groupFeed s.daily group).repaired ∧
      (groupFeed r.daily group).engagedUsers = (groupFeed s.daily group).engagedUsers := by
  cases group <;> exact ⟨rfl, (reordered.one _).repaired_eq, (reordered.one _).users_eq⟩

theorem normalizeGroup_reordered (reordered : r.Reordered s) (day : String) (group : MetricGroup) :
    (normalizeGroup r.daily day group).1 = (normalizeGroup s.daily day group).1 ∧
      (normalizeGroup r.daily day group).2.length =
        (normalizeGroup s.daily day group).2.length := by
  obtain ⟨field, repaired, users⟩ := groupFeed_eq reordered group
  have adds : ∀ a ∈ adding r.daily group, a.isRaise = false := fun a member =>
    Action.isRaise_eq_false (adding_measures r.daily group a member)
  have raises : ∀ a ∈ raising r.daily group, a.isRaise = true := by
    intro a member
    obtain ⟨key, users, rfl⟩ := raising_users r.daily group a member
    rfl
  obtain ⟨entities, warnings⟩ := Breakdown.run_perm group day adds raises
    (adding_perm reordered group) (raising_perm reordered group)
  have repairs : groupRepairs r.daily (groupFeed r.daily group) =
      groupRepairs s.daily (groupFeed s.daily group) := by
    have own : r.daily.repaired = s.daily.repaired := reordered.repaired_eq
    simp only [groupRepairs, field, repaired, own]
  constructor
  · simp only [normalizeGroup, Breakdown.snapshot, groupFeed_actions, users, entities]
  · simp only [normalizeGroup, groupFeed_actions, repairs, List.length_append, warnings]

theorem normalizeOn_reordered (reordered : r.Reordered s) (day : Day) :
    (normalizeOn day r.daily).1 = (normalizeOn day s.daily).1 ∧
      (normalizeOn day r.daily).2.length = (normalizeOn day s.daily).2.length := by
  have groups := normalizeGroup_reordered reordered day.iso
  have active : r.daily.activeUsers = s.daily.activeUsers := reordered.count_eq _
  have engaged : r.daily.engagedUsers = s.daily.engagedUsers := reordered.count_eq _
  simp only [normalizeOn, ofGroups, MetricGroup.all, List.map_cons, List.map_nil, List.flatMap_cons,
    List.flatMap_nil, List.length_append, groups, active, engaged, and_self]

/-- What the report of a window says of a day: the day itself, and how many warnings it has. -/
def brief (result : Snapshot × List Warning) : Snapshot × Nat := (result.1, result.2.length)

/-- The order of the lists in a record is seen neither in its day nor in the number of warnings. -/
theorem normalize_reordered {raw other : Value} (reordered : raw.Reordered other) :
    (normalize raw).toOption.map brief = (normalize other).toOption.map brief := by
  have made (raw : Value) : (normalize raw).toOption =
      (readDaily raw).toOption.bind fun record => (normalizeRecord record.daily).toOption := by
    rw [normalize]
    cases readDaily raw <;> rfl
  have read := readDaily_reordered reordered
  rw [made, made]
  generalize (readDaily raw).toOption = before, (readDaily other).toOption = after at read ⊢
  cases read with
  | none => rfl
  | @some record record' same =>
    have dated : readDate record.daily = readDate record'.daily := by
      have text : record.daily.date = record'.daily.date := same.text_eq "date"
      simp only [readDate, text]
    simp only [Option.bind_some, normalizeRecord, dated]
    cases readDate record'.daily with
    | error => rfl
    | ok day =>
      obtain ⟨sameDay, sameCount⟩ := normalizeOn_reordered same day
      exact congrArg some (Prod.ext sameDay sameCount)

end UsageMetrics.Daily
