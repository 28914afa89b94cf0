import UsageMetrics.Proofs.Daily.Accepted
import UsageMetrics.Proofs.Daily.Coherence

namespace UsageMetrics.Feed

def Tag.Sound (t : Tag) : Prop := t.IsNamed ∧ t.repaired = []

structure LanguageActivity.Sound (l : LanguageActivity) : Prop where
  tag : l.tag.Sound
  suggestions : l.acceptances ≤ l.suggestions
  lines : l.linesAccepted ≤ l.linesSuggested

structure CompletionModel.Sound (m : CompletionModel) : Prop where
  tag : m.tag.Sound
  languages : ∀ l ∈ m.languages, l.Sound

structure CompletionEditor.Sound (e : CompletionEditor) : Prop where
  tag : e.tag.Sound
  models : ∀ m ∈ e.models, m.Sound

structure Completions.Sound (c : Completions) : Prop where
  repaired : c.repaired = []
  languages : ∀ l ∈ c.languages, l.tag.Sound
  editors : ∀ e ∈ c.editors, e.Sound

structure ChatEditor.Sound (e : ChatEditor) : Prop where
  tag : e.tag.Sound
  models : ∀ m ∈ e.models, m.tag.Sound

structure IdeChat.Sound (c : IdeChat) : Prop where
  repaired : c.repaired = []
  editors : ∀ e ∈ c.editors, e.Sound

structure DotcomChat.Sound (c : DotcomChat) : Prop where
  repaired : c.repaired = []
  models : ∀ m ∈ c.models, m.tag.Sound

structure Repository.Sound (p : Repository) : Prop where
  tag : p.tag.Sound
  models : ∀ m ∈ p.models, m.tag.Sound

structure PullRequests.Sound (p : PullRequests) : Prop where
  repaired : p.repaired = []
  repositories : ∀ r ∈ p.repositories, r.Sound

/-- A record in which nothing had to be reset, every entry has a name, and nothing is accepted that
was not offered. -/
structure DailyRecord.Sound (r : DailyRecord) : Prop where
  repaired : r.repaired = []
  completions : r.completions.Sound
  ideChat : r.ideChat.Sound
  dotcomChat : r.dotcomChat.Sound
  pullRequests : r.pullRequests.Sound

structure DailyRecord.UsersFit (r : DailyRecord) : Prop where
  engaged : r.engagedUsers ≤ r.activeUsers
  completions : r.completions.engagedUsers ≤ r.engagedUsers
  ideChat : r.ideChat.engagedUsers ≤ r.activeUsers
  dotcomChat : r.dotcomChat.engagedUsers ≤ r.activeUsers
  pullRequests : r.pullRequests.engagedUsers ≤ r.activeUsers

theorem DailyRecord.Sound.coherent {r : DailyRecord} (sound : r.Sound) (fit : r.UsersFit) :
    r.Coherent := by
  refine ⟨fun e inGroup m inEditor l inModel => ?_, Nat.le_trans fit.completions fit.engaged,
    fit.ideChat, fit.dotcomChat, fit.pullRequests⟩
  have language := ((sound.completions.editors e inGroup).models m inEditor).languages l inModel
  exact ⟨language.suggestions, language.lines⟩

end UsageMetrics.Feed

namespace UsageMetrics.Daily

open UsageMetrics.Calendar UsageMetrics.Metric UsageMetrics.Feed

theorem warningsOn_sound (group : MetricGroup) (day : String) (dimension : Dimension) {t : Tag}
    (sound : t.Sound) : Breakdown.warningsOn group day dimension t = [] := by
  obtain ⟨named, intact⟩ := sound
  obtain ⟨name, key⟩ := entryKey?_named named dimension
  simp [Breakdown.warningsOn, key, intact]

def AcceptSound (actions : List Action) : Prop := ∀ entry ∈ acceptedBy actions, entry.2.Sound

namespace AcceptSound

variable {first second : List Action}

theorem quiet (none : acceptedBy first = []) : AcceptSound first := by
  rw [AcceptSound, none]
  exact nofun

theorem accept {t : Tag} (sound : t.Sound) (dimension : Dimension) (rest : AcceptSound first) :
    AcceptSound (.accept dimension t :: first) := by
  rw [AcceptSound, acceptedBy_accept]
  exact List.forall_mem_cons.mpr ⟨sound, rest⟩

theorem append (before : AcceptSound first) (after : AcceptSound second) :
    AcceptSound (first ++ second) := by
  rw [AcceptSound, acceptedBy_append]
  exact List.forall_mem_append.mpr ⟨before, after⟩

theorem flatMap {β : Type} {actions : β → List Action} {entries : List β}
    (each : ∀ entry ∈ entries, AcceptSound (actions entry)) :
    AcceptSound (entries.flatMap actions) := by
  rw [AcceptSound, acceptedBy_flatMap]
  exact List.forall_mem_flatMap.mpr each

theorem entry {t : Tag} (sound : t.Sound) (dimension : Dimension) (key? : Option EntityKey)
    (amounts : List (Counter × Nat)) (isCustom : Bool) :
    AcceptSound (.accept dimension t :: addTo key? amounts ++ markCustom key? isCustom) :=
  .accept sound dimension (.append (.quiet (by simp)) (.quiet (by simp)))

end AcceptSound

section Record

variable {r : DailyRecord}

theorem completions_acceptSound (sound : r.completions.Sound) :
    AcceptSound (Completions.actions r.completions) := by
  rw [AcceptSound, Completions.acceptedBy_actions, ← acceptedBy_append]
  refine AcceptSound.append
    (.flatMap fun l listed => .accept (sound.languages l listed) _ (.quiet rfl)) ?_
  refine .flatMap fun e inGroup => ?_
  obtain ⟨editor, models⟩ := sound.editors e inGroup
  refine .accept editor _ (.append (.quiet (by simp)) (.flatMap fun m inEditor => ?_))
  obtain ⟨model, languages⟩ := models m inEditor
  refine .append (.entry model _ _ _ _) (.flatMap fun l inModel => ?_)
  exact .append (.quiet (by simp)) (.accept (languages l inModel).tag _ (.quiet (by simp)))

theorem ideChat_acceptSound (sound : r.ideChat.Sound) :
    AcceptSound (IdeChat.actions r.ideChat) := by
  refine .flatMap fun e inGroup => ?_
  obtain ⟨editor, models⟩ := sound.editors e inGroup
  refine .accept editor _ (.append (.quiet (by simp)) (.flatMap fun m inEditor => ?_))
  rw [IdeChat.modelActions, List.append_assoc]
  exact .append (.quiet (by simp)) (.entry (models m inEditor) _ _ _ _)

theorem dotcomChat_acceptSound (sound : r.dotcomChat.Sound) :
    AcceptSound (DotcomChat.actions r.dotcomChat) :=
  .flatMap fun m inGroup => .entry (sound.models m inGroup) _ _ _ _

theorem pullRequests_acceptSound (sound : r.pullRequests.Sound) :
    AcceptSound (PullRequests.actions r.pullRequests) := by
  refine .flatMap fun p inGroup => ?_
  obtain ⟨repository, models⟩ := sound.repositories p inGroup
  refine .accept repository _ (.append (.quiet (by simp)) (.flatMap fun m inRepository => ?_))
  rw [PullRequests.modelActions, List.append_assoc]
  exact .append (.quiet (by simp)) (.entry (models m inRepository) _ _ _ _)

theorem normalizeGroup_silent (sound : r.Sound) (day : String) (group : MetricGroup) :
    (normalizeGroup r day group).2 = [] := by
  have accepts : AcceptSound (groupFeed r group).actions := by
    cases group with
    | codeCompletions => exact completions_acceptSound sound.completions
    | ideChat => exact ideChat_acceptSound sound.ideChat
    | dotcomChat => exact dotcomChat_acceptSound sound.dotcomChat
    | pullRequests => exact pullRequests_acceptSound sound.pullRequests
  have own : (groupFeed r group).repaired = [] := by
    cases group with
    | codeCompletions => exact sound.completions.repaired
    | ideChat => exact sound.ideChat.repaired
    | dotcomChat => exact sound.dotcomChat.repaired
    | pullRequests => exact sound.pullRequests.repaired
  have entries : (Breakdown.run group day (groupFeed r group).actions).warnings = [] := by
    rw [Breakdown.warnings_run, List.flatMap_eq_nil_iff]
    exact fun entry member => warningsOn_sound group day entry.1 (accepts entry member)
  simp [normalizeGroup, groupRepairs, own, sound.repaired, entries]

theorem normalizeOn_silent (sound : r.Sound) (day : Day) : (normalizeOn day r).2 = [] := by
  simp only [normalizeOn, ofGroups, List.flatMap_map]
  exact List.flatMap_eq_nil_iff.mpr fun group _ => normalizeGroup_silent sound day.iso group

end Record

end UsageMetrics.Daily
