import Mathlib.Data.List.Nodup
import UsageMetrics.Proofs.Daily.Reordering
import UsageMetrics.Proofs.Window.Layout
import UsageMetrics.Proofs.Window.Summary

namespace UsageMetrics.Window

open UsageMetrics.Calendar UsageMetrics.Daily UsageMetrics.Feed UsageMetrics.Metric

theorem ofDays_perm (pattern : String) {day other : Day} {rest others : List Day}
    (order : (day :: rest).Perm (other :: others)) :
    DateRange.ofDays pattern day rest = DateRange.ofDays pattern other others := by
  have first := earlier_selects.foldl_perm order fun a _ b _ back less => Day.le_antisymm less back
  have last := later_selects.foldl_perm order fun a _ b _ less back => Day.le_antisymm less back
  simp only [DateRange.ofDays, first, last, (distinct_perm order).length_eq]

theorem dateRange_perm (pattern : Value) {snapshots others : List Snapshot}
    (order : snapshots.Perm others) : dateRange pattern snapshots = dateRange pattern others := by
  have days := order.map Snapshot.day
  unfold dateRange
  cases listed : snapshots.map Snapshot.day with
  | nil => rw [listed, List.nil_perm] at days; rw [days]
  | cons day rest =>
    cases listed' : others.map Snapshot.day with
    | nil => rw [listed', List.perm_nil, listed] at days; cases days
    | cons other otherDays =>
      rw [listed, listed'] at days
      simp only [ofDays_perm _ days]

section Windows

variable {snapshots others : List Snapshot} (order : snapshots.Perm others)
  (dated : (snapshots.map Snapshot.day).Nodup)

include order dated

theorem latest?_perm : latest? snapshots = latest? others := by
  cases snapshots with
  | nil => rw [List.nil_perm.mp order]
  | cons s rest =>
    cases others with
    | nil => cases List.perm_nil.mp order
    | cons other otherDays =>
      have level : ∀ a ∈ s :: rest, ∀ b ∈ s :: rest, a.day ≤ b.day → b.day ≤ a.day → a = b :=
        fun a inWindow b inWindow' less back =>
          List.inj_on_of_nodup_map dated inWindow inWindow' (Day.le_antisymm less back)
      exact congrArg some (newer_selects.foldl_perm order level)

theorem series_perm (complete : ∀ s ∈ snapshots, s.Complete) :
    series snapshots = series others := by
  have complete' : ∀ s ∈ others, s.Complete := fun s member =>
    complete s (order.mem_iff.mpr member)
  have rows := order.map Snapshot.figures
  have days : ((snapshots.map Snapshot.figures).map Figures.day).Nodup := by
    rw [List.map_map]
    exact dated
  rw [series_ok complete, series_ok complete']
  refine congrArg Except.ok (mergeSort_perm dayBefore_trans dayBefore_total rows ?_)
  intro a inRows b inRows' less back
  exact List.inj_on_of_nodup_map days inRows inRows'
    (Day.le_antisymm (of_decide_eq_true less) (of_decide_eq_true back))

theorem aggregateDays_perm (statistic : Statistic) (complete : ∀ s ∈ snapshots, s.Complete) :
    aggregateDays statistic snapshots = aggregateDays statistic others := by
  have reordered : Rearranged Snapshot.Reordered snapshots others := .of_perm .refl order
  refine aggregateDays_reordered reordered fun _ => ⟨dated, fun s member => ?_⟩
  exact (complete s member).groupsDistinct

theorem days?_perm (settings : Settings) (complete : ∀ s ∈ snapshots, s.Complete) :
    days? settings snapshots = days? settings others := by
  have aggregate : aggregate? settings.statistic snapshots =
      aggregate? settings.statistic others := by
    rw [aggregate?, aggregate?, aggregateDays_perm order dated settings.statistic complete,
      order.isEmpty_eq]
  rw [days?, days?, aggregate, dateRange_perm settings.dateLabel order, latestFigures,
    latestFigures, latest?_perm order dated, series_perm order dated complete]

end Windows

section Intake

variable {raws others : List Value}

theorem refusals_eq_nil (accepted : ∀ raw ∈ raws, (Daily.normalize raw).isOk) :
    refusals raws = [] := by
  refine List.filterMap_eq_nil_iff.mpr fun indexed member => ?_
  obtain ⟨result, normalized⟩ :=
    exists_ok (accepted indexed.1 (List.fst_mem_of_mem_zipIdx member))
  simp only [normalized]

theorem briefs_perm (reordered : Rearranged Value.Reordered raws others) :
    (raws.map fun raw => (Daily.normalize raw).toOption.map brief).Perm
      (others.map fun raw => (Daily.normalize raw).toOption.map brief) :=
  reordered.map_perm fun _ _ same => normalize_reordered same

theorem accepted_reordered (reordered : Rearranged Value.Reordered raws others)
    (accepted : ∀ raw ∈ raws, (Daily.normalize raw).isOk) :
    ∀ raw ∈ others, (Daily.normalize raw).isOk := by
  refine reordered.forall_mem (fun raw other same ok => ?_) accepted
  have made := normalize_reordered same
  obtain ⟨result, normalized⟩ := exists_ok ok
  cases normalized' : Daily.normalize other with
  | error => rw [normalized, normalized'] at made; cases made
  | ok result' => rfl

theorem normalizeAll_reordered (reordered : Rearranged Value.Reordered raws others)
    (accepted : ∀ raw ∈ raws, (Daily.normalize raw).isOk) :
    (normalizeAll raws).1.Perm (normalizeAll others).1 ∧
      (normalizeAll raws).2 = (normalizeAll others).2 := by
  have briefs (raws : List Value) : (acceptedDays raws).map brief =
      (raws.map fun raw => (Daily.normalize raw).toOption.map brief).filterMap id := by
    simp [acceptedDays, List.map_filterMap, List.filterMap_map]
  have order := briefs_perm reordered
  have days : ((acceptedDays raws).map brief).Perm ((acceptedDays others).map brief) := by
    rw [briefs, briefs]
    exact order.filterMap id
  constructor
  · have snapshots := days.map Prod.fst
    rw [List.map_map, List.map_map] at snapshots
    exact snapshots
  · have counts := (days.map Prod.snd).sum_eq
    rw [List.map_map, List.map_map] at counts
    have lengths := order.length_eq
    rw [List.length_map, List.length_map] at lengths
    simp only [normalizeAll, refusals_eq_nil accepted,
      refusals_eq_nil (accepted_reordered reordered accepted), lengths]
    exact congrArg (fun dropped => Report.mk others.length 0 dropped []) counts

end Intake

/-- Neither the order of the records nor that of the lists in them is seen in a summary. -/
theorem usageSummary_reordered {settings : Settings} (plain : settings.Plain)
    {raws others : List Value} (accepted : ∀ raw ∈ raws, (Daily.normalize raw).isOk)
    (dated : ((normalizeAll raws).1.map Snapshot.day).Nodup)
    (reordered : Rearranged Value.Reordered raws others) :
    ∃ outcome, usageSummary settings (.list raws) = .ok outcome ∧
      usageSummary settings (.list others) = .ok outcome ∧
      (raws ≠ [] → ∃ summary, outcome = .found summary) := by
  obtain ⟨order, report⟩ := normalizeAll_reordered reordered accepted
  have days := days?_perm order dated settings (snapshots_complete raws)
  have same : usageSummary settings (.list raws) = usageSummary settings (.list others) := by
    simp only [usageSummary_list, summarize, summarizeSnapshots, days, report]
  rw [← same]
  by_cases nonempty : raws = []
  · subst nonempty
    exact ⟨_, rfl, rfl, fun nonempty => absurd rfl nonempty⟩
  · obtain ⟨top, range, s, -, found⟩ :=
      usageSummary_found plain (snapshots_ne_nil (exists_accepted accepted nonempty))
    exact ⟨_, found, found, fun _ => ⟨_, rfl⟩⟩

def pairedFeed (pair : Value → Value → List Value) : List Value :=
  let language (name : Value) (n : Int) : Value := .object
    [("name", name), ("total_engaged_users", .integer n), ("total_code_suggestions", .integer n)]
  let model (name : String) (n : Int) : Value := .object
    [("name", .text name), ("is_custom_model", .bool (n = 2)),
      ("languages", .list (pair (language (.text "go") n) (language .null 7)))]
  let editor (name : String) (n : Int) : Value := .object
    [("name", .text name), ("models", .list (pair (model "m" n) (model "m" (n + 1))))]
  let repository (n : Int) : Value := .object
    [("name", .text "r"), ("total_engaged_users", .integer n)]
  pair
    (.object
      [("date", .text "2025-01-02"), ("total_active_users", .text "many"),
        ("copilot_ide_code_completions", .object
          [("languages", .list (pair (language (.text "c") 4) (language (.text "c") 5))),
            ("editors", .list (pair (editor "vim" 1) (editor "emacs" 3)))]),
        ("copilot_dotcom_pull_requests", .object
          [("repositories", .list (pair (repository 6) (repository (-1))))])])
    (.object [("date", .text "2025-01-01"), ("total_active_users", .integer 9)])

theorem pairedFeed_turned :
    Rearranged Value.Reordered (pairedFeed fun a b => [a, b]) (pairedFeed fun a b => [b, a]) := by
  have model (name : String) (isCustom : Bool) (a b : Value) : Value.Reordered
      (.object [("name", .text name), ("is_custom_model", .bool isCustom),
        ("languages", .list [a, b])])
      (.object [("name", .text name), ("is_custom_model", .bool isCustom),
        ("languages", .list [b, a])]) :=
    .object (.cons (.same _) (.cons (.same _) (.cons
      (.list (.turned (.same a) (.same b))) .nil))) rfl
  have editor (name : String) {a a' b b' : Value} (first : a.Reordered a')
      (second : b.Reordered b') : Value.Reordered
      (.object [("name", .text name), ("models", .list [a, b])])
      (.object [("name", .text name), ("models", .list [b', a'])]) :=
    .object (.cons (.same _) (.cons (.list (.turned first second)) .nil)) rfl
  have completions {a b c c' d d' : Value} (first : c.Reordered c') (second : d.Reordered d') :
      Value.Reordered
        (.object [("languages", .list [a, b]), ("editors", .list [c, d])])
        (.object [("languages", .list [b, a]), ("editors", .list [d', c'])]) :=
    .object (.cons (.list (.turned (.same a) (.same b))) (.cons
      (.list (.turned first second)) .nil)) rfl
  have pullRequests (a b : Value) : Value.Reordered
      (.object [("repositories", .list [a, b])]) (.object [("repositories", .list [b, a])]) :=
    .object (.cons (.list (.turned (.same a) (.same b))) .nil) rfl
  refine .turned (.object (.cons (.same _) (.cons (.same _) (.cons ?_ (.cons ?_ .nil)))) rfl)
    (.same _)
  · exact completions (editor _ (model _ _ _ _) (model _ _ _ _))
      (editor _ (model _ _ _ _) (model _ _ _ _))
  · exact pullRequests _ _

theorem pairedFeed_sameSummary :
    (∀ raw ∈ pairedFeed fun a b => [a, b], (Daily.normalize raw).isOk) ∧
      ((normalizeAll (pairedFeed fun a b => [a, b])).1.map Snapshot.day).Nodup ∧
      ∃ outcome,
        usageSummary .default (.list (pairedFeed fun a b => [a, b])) = .ok outcome ∧
        usageSummary .default (.list (pairedFeed fun a b => [b, a])) = .ok outcome ∧
        ((pairedFeed fun a b => [a, b]) ≠ [] → ∃ summary, outcome = .found summary) := by
  have accepted : ∀ raw ∈ pairedFeed fun a b => [a, b], (Daily.normalize raw).isOk := by decide
  have dated : ((normalizeAll (pairedFeed fun a b => [a, b])).1.map Snapshot.day).Nodup := by decide
  exact ⟨accepted, dated,
    usageSummary_reordered (Settings.default_plain .max) accepted dated pairedFeed_turned⟩

end UsageMetrics.Window
