import UsageMetrics.Proofs.Daily.Coherence
import UsageMetrics.Proofs.Daily.Reference

namespace UsageMetrics.Feed

open UsageMetrics.Metric

section Mentions

variable {r : DailyRecord} {group : MetricGroup} {dimension : Dimension} {m : Mention}

theorem DailyRecord.mentions_sliced (mentioned : m ∈ r.mentions group dimension) :
    dimension ∈ group.reslicings := by
  cases group with
  | codeCompletions =>
    cases dimension with
    | repository => cases mentioned
    | _ => simp [MetricGroup.reslicings]
  | ideChat =>
    cases dimension with
    | language => cases mentioned
    | repository => cases mentioned
    | _ => simp [MetricGroup.reslicings]
  | dotcomChat =>
    cases dimension with
    | model => simp [MetricGroup.reslicings]
    | _ => cases mentioned
  | pullRequests =>
    cases dimension with
    | language => cases mentioned
    | editor => cases mentioned
    | _ => simp [MetricGroup.reslicings]

theorem DailyRecord.mentions_custom (mentioned : m ∈ r.mentions group dimension)
    (custom : m.isCustom = true) : dimension = .model := by
  cases dimension with
  | model => rfl
  | language =>
    cases group with
    | codeCompletions =>
      simp only [DailyRecord.mentions, List.mem_flatMap, List.mem_map] at mentioned
      obtain ⟨e, -, m', -, l, -, rfl⟩ := mentioned
      cases custom
    | _ => cases mentioned
  | editor =>
    cases group with
    | codeCompletions =>
      obtain ⟨e, -, rfl⟩ := List.mem_map.mp mentioned
      cases custom
    | ideChat =>
      obtain ⟨e, -, rfl⟩ := List.mem_map.mp mentioned
      cases custom
    | _ => cases mentioned
  | repository =>
    cases group with
    | pullRequests =>
      obtain ⟨p, -, rfl⟩ := List.mem_map.mp mentioned
      cases custom
    | _ => cases mentioned

theorem Mention.amount_nonneg (m : Mention) (counter : Counter) : 0 ≤ m.amount counter := by
  unfold Mention.amount
  split
  · exact Int.natCast_nonneg m.users
  · exact List.sum_nonneg (List.forall_mem_map.mpr fun event _ => Int.natCast_nonneg (event counter))

end Mentions

end UsageMetrics.Feed

namespace UsageMetrics.Daily

open UsageMetrics.Calendar UsageMetrics.Metric UsageMetrics.Feed UsageMetrics.Text

def EntityCounts.Precedes (e other : EntityCounts) : Prop :=
  e.dimension.label < other.dimension.label ∨ e.dimension = other.dimension ∧ e.name < other.name

structure EntityCounts.Normal (group : MetricGroup) (e : EntityCounts) : Prop where
  own : e.group = group
  sliced : e.dimension ∈ group.reslicings
  named : ∃ c ∈ e.name.toList, isBlank c = false
  nonneg : ∀ counter, 0 ≤ e.counts.get counter
  foreign : ∀ counter, counter ∉ group.counters → e.counts.get counter = 0
  custom : e.isCustom = true → e.dimension = .model

structure GroupSnapshot.Normal (group : MetricGroup) (s : GroupSnapshot) : Prop where
  own : s.group = group
  users : 0 ≤ s.engagedUsers
  ordered : s.entities.Pairwise EntityCounts.Precedes
  distinct : (s.entities.map fun e => (e.dimension, e.name)).Nodup
  entities : ∀ e ∈ s.entities, e.Normal group

/-- What later stages rely on in a day: each group in its place, and in it each entity once, in
order and within what the group counts. -/
structure Snapshot.Normal (s : Snapshot) : Prop where
  activeUsers : 0 ≤ s.activeUsers
  engagedUsers : 0 ≤ s.engagedUsers
  groups : s.groups.map Prod.fst = MetricGroup.all
  listed : ∀ listed ∈ s.groups, listed.2.Normal listed.1

section Listed

variable {s : Snapshot} (normal : s.Normal)

include normal

theorem Snapshot.Normal.complete : s.Complete := .of_eq normal.groups

theorem Snapshot.Normal.group (group : MetricGroup) : (s.listed group).Normal group :=
  normal.listed _ (normal.complete.listed_mem group)

end Listed

theorem exists_solid {name : String} (named : allBlank name = false) :
    ∃ c ∈ name.toList, isBlank c = false := by
  simpa [allBlank] using named

theorem addedUp?_normal {r : DailyRecord} {group : MetricGroup} {dimension : Dimension}
    {name : String} {e : EntityCounts} (made : addedUp? r group dimension name = some e)
    (foreign : ∀ counter, counter ∉ group.counters → e.counts.get counter = 0) :
    e.Normal group := by
  unfold addedUp? at made
  simp only [Option.ite_none_left_eq_some, Bool.or_eq_true, not_or, Bool.not_eq_true,
    Option.some.injEq] at made
  obtain ⟨⟨named, mentioned⟩, rfl⟩ := made
  obtain ⟨m, own⟩ := List.exists_mem_of_ne_nil _ (List.isEmpty_eq_false_iff.mp mentioned)
  have sliced := DailyRecord.mentions_sliced (List.mem_of_mem_filter own)
  refine ⟨rfl, sliced, exists_solid named, ?_, foreign, ?_⟩
  · intro counter
    rw [Counts.get_ofFn]
    exact List.sum_nonneg (List.forall_mem_map.mpr fun m _ => m.amount_nonneg counter)
  · intro custom
    obtain ⟨m, own, custom⟩ := List.any_eq_true.mp custom
    exact DailyRecord.mentions_custom (List.mem_of_mem_filter own) custom

theorem languageUsers_nonneg (listed : List LanguageUsers) (nested : List LanguageActivity) :
    0 ≤ Completions.languageUsers listed nested := by
  unfold Completions.languageUsers
  split
  · exact Int.natCast_nonneg _
  · exact List.sum_nonneg (List.forall_mem_map.mpr fun l _ => Int.natCast_nonneg l.engagedUsers)

theorem language?_normal {c : Completions} {name : String} {e : EntityCounts}
    (made : Completions.language? c name = some e)
    (foreign : ∀ counter, counter ∉ MetricGroup.codeCompletions.counters →
      e.counts.get counter = 0) : e.Normal .codeCompletions := by
  unfold Completions.language? at made
  simp only [Option.ite_none_left_eq_some, Bool.or_eq_true, not_or, Bool.not_eq_true,
    Option.some.injEq] at made
  obtain ⟨⟨named, -⟩, rfl⟩ := made
  refine ⟨rfl, .head _, exists_solid named, ?_, foreign, nofun⟩
  intro counter
  rw [Counts.get_ofFn]
  split
  · exact languageUsers_nonneg _ _
  · exact List.sum_nonneg (List.forall_mem_map.mpr fun l _ => Int.natCast_nonneg (l.event counter))

theorem Breakdown.entities_ordered (group : MetricGroup) (b : Breakdown) :
    (b.entities group).Pairwise EntityCounts.Precedes := by
  refine List.pairwise_map.mpr (b.counts.sorted.imp fun less => ?_)
  simpa [KeyOrder.before, EntityCounts.Precedes] using less

theorem Breakdown.entities_distinct (group : MetricGroup) (b : Breakdown) :
    ((b.entities group).map fun e => (e.dimension, e.name)).Nodup := by
  rw [entities, List.map_map]
  exact b.counts.keys_nodup

section Normal

variable (r : DailyRecord) (day : String) (group : MetricGroup)

theorem entities_normal : ∀ e ∈ (normalizeGroup r day group).1.entities, e.Normal group := by
  intro e member
  have foreign : ∀ counter, counter ∉ group.counters → e.counts.get counter = 0 :=
    fun counter foreign => entities_foreign foreign e member
  have own : e ∈ (normalizeGroup r day group).1.under (e.dimension, e.name) :=
    List.mem_filter.mpr ⟨member, decide_eq_true rfl⟩
  by_cases language : group = .codeCompletions ∧ e.dimension = .language
  · obtain ⟨rfl, language⟩ := language
    rw [language, under_language, Option.mem_toList] at own
    exact language?_normal own foreign
  · have other : group = .codeCompletions → e.dimension ≠ .language := fun completions same =>
      language ⟨completions, same⟩
    rw [under_addedUp r day group e.dimension e.name other, Option.mem_toList] at own
    exact addedUp?_normal own foreign

theorem normalizeGroup_normal : (normalizeGroup r day group).1.Normal group where
  own := rfl
  users := Int.natCast_nonneg _
  ordered := Breakdown.entities_ordered group _
  distinct := Breakdown.entities_distinct group _
  entities := entities_normal r day group

end Normal

theorem normalizeOn_normal (day : Day) (r : DailyRecord) : (normalizeOn day r).1.Normal where
  activeUsers := Int.natCast_nonneg _
  engagedUsers := Int.natCast_nonneg _
  groups := by simp [normalizeOn, ofGroups, Function.comp_def]
  listed := by
    intro listed member
    obtain ⟨_, inGroups, rfl⟩ := List.mem_map.mp member
    obtain ⟨group, -, rfl⟩ := List.mem_map.mp inGroups
    exact normalizeGroup_normal r day.iso group

/-- However malformed and repetitive a record is, a day that is made of it has the normal form. -/
theorem normalize_normal {raw : Value} {s : Snapshot} {ws : List Warning}
    (accepted : normalize raw = .ok (s, ws)) : s.Normal := by
  obtain ⟨record, day, -, -, made⟩ := normalize_ok accepted
  obtain rfl : s = (normalizeOn day record.daily).1 := congrArg Prod.fst made
  exact normalizeOn_normal day record.daily

def tangledDay : Value :=
  let model (users : Value) : Value := .object
    [("name", .text "vim"), ("total_engaged_users", users), ("is_custom_model", .text "yes"),
      ("languages", .list [.object [("name", .text " "), ("total_code_suggestions", .text "12")],
        .object [("name", .text "go"), ("total_code_acceptances", .integer (-3))]])]
  .object [("date", .text "2025-02-28"), ("total_active_users", .integer (-1)),
    ("copilot_ide_code_completions", .object [("languages", .list [.null, .object
        [("name", .text "Go")]]),
      ("editors", .list [.object [("name", .text "vim"), ("models", .list
          [model (.integer 3), .text "m", model (.bool true)])],
        .object [("name", .integer 7), ("models", .list [model .null])]])]),
    ("copilot_ide_chat", .list [])]

theorem tangledDay_normal : ∃ s ws, normalize tangledDay = .ok (s, ws) ∧ s.Normal ∧
    (s.listed .codeCompletions).entities.map (fun e => (e.dimension, e.name)) =
      [(.editor, "vim"), (.language, "Go"), (.language, "go"), (.model, "vim")] := by
  have accepted : (normalize tangledDay).toOption.map (fun made =>
      (made.1.listed .codeCompletions).entities.map fun e => (e.dimension, e.name)) =
        some [(.editor, "vim"), (.language, "Go"), (.language, "go"), (.model, "vim")] := by decide
  cases made : normalize tangledDay with
  | error refusal =>
    rw [made] at accepted
    cases accepted
  | ok result =>
    rw [made] at accepted
    exact ⟨result.1, result.2, rfl, normalize_normal made, Option.some.inj accepted⟩

end UsageMetrics.Daily
