import Mathlib.Data.List.Dedup
import UsageMetrics.Proofs.Window.Summary

namespace UsageMetrics.Window

open UsageMetrics.Calendar UsageMetrics.Daily UsageMetrics.Feed

section Days

variable {days others : List Day} {first last d : Day}

theorem length_le_of_between (once : days.Nodup) (between : ∀ d ∈ days, first ≤ d ∧ d ≤ last) :
    days.length ≤ last.ordinal - first.ordinal + 1 := by
  have numbered : (days.map Day.ordinal).Nodup := once.map fun _ _ => Day.ordinal_injective
  have inside : days.map Day.ordinal ⊆
      List.range' first.ordinal (last.ordinal - first.ordinal + 1) := by
    intro n member
    obtain ⟨d, listed, rfl⟩ := List.mem_map.mp member
    obtain ⟨lower, upper⟩ := between d listed
    rw [Day.le_iff] at lower upper
    rw [List.mem_range'_1]
    omega
  simpa using (List.subperm_of_subset numbered inside).length_le

theorem length_distinct (same : ∀ d, d ∈ days ↔ d ∈ others) :
    (distinct days).length = others.dedup.length := by
  refine List.Perm.length_eq ?_
  rw [List.perm_ext_iff_of_nodup (distinct_nodup days) (List.nodup_dedup others)]
  intro d
  rw [mem_distinct, List.mem_dedup, same]

theorem head?_of_pairwise {below : Day → Day → Prop}
    (antisymm : ∀ a b, below a b → below b a → a = b) (ordered : days.Pairwise below)
    (listed : d ∈ days) (least : ∀ e ∈ days, below d e) : days.head? = some d := by
  cases days with
  | nil => exact absurd listed List.not_mem_nil
  | cons first rest =>
    obtain ⟨before, -⟩ := List.pairwise_cons.mp ordered
    rcases List.mem_cons.mp listed with rfl | later
    · rfl
    · exact congrArg some (antisymm _ _ (before d later) (least first List.mem_cons_self))

theorem getLast?_of_sorted (sorted : days.Pairwise fun a b => a ≤ b) (listed : d ∈ days)
    (most : ∀ e ∈ days, e ≤ d) : days.getLast? = some d := by
  rw [List.getLast?_eq_head?_reverse]
  exact head?_of_pairwise (fun _ _ upper lower => Day.le_antisymm lower upper)
    (List.pairwise_reverse.mpr sorted) (List.mem_reverse.mpr listed)
    fun e member => most e (List.mem_reverse.mp member)

end Days

structure DateRange.Spans (range : DateRange) (days : List Day) : Prop where
  first : range.first ∈ days
  last : range.last ∈ days
  between : ∀ d ∈ days, range.first ≤ d ∧ d ≤ range.last
  dayCount : range.dayCount = (distinct days).length

namespace DateRange.Spans

variable {range : DateRange} {days others : List Day}

theorem positive (spans : range.Spans days) : 1 ≤ range.dayCount := by
  rw [spans.dayCount]
  exact List.length_pos_of_mem (mem_distinct.mpr spans.first)

theorem span (spans : range.Spans days) :
    range.dayCount ≤ range.last.ordinal - range.first.ordinal + 1 := by
  rw [spans.dayCount]
  exact length_le_of_between (distinct_nodup days) fun d member =>
    spans.between d (mem_distinct.mp member)

theorem congr (spans : range.Spans days) (same : ∀ d, d ∈ days ↔ d ∈ others) :
    range.Spans others where
  first := (same _).mp spans.first
  last := (same _).mp spans.last
  between d member := spans.between d ((same d).mpr member)
  dayCount := by rw [spans.dayCount, length_distinct same, ← length_distinct fun _ => Iff.rfl]

theorem head? (spans : range.Spans days) (sorted : days.Pairwise fun a b => a ≤ b) :
    days.head? = some range.first :=
  head?_of_pairwise (fun _ _ => Day.le_antisymm) sorted spans.first
    fun d member => (spans.between d member).1

theorem getLast? (spans : range.Spans days) (sorted : days.Pairwise fun a b => a ≤ b) :
    days.getLast? = some range.last :=
  getLast?_of_sorted sorted spans.last fun d member => (spans.between d member).2

end DateRange.Spans

theorem dateRange_spans {pattern : Value} {snapshots : List Snapshot} {range : DateRange}
    (dated : dateRange pattern snapshots = .ok (some range)) :
    range.Spans (snapshots.map Snapshot.day) := by
  unfold dateRange at dated
  split at dated
  · cases dated
  · rename_i day rest days
    rw [days]
    cases read : readPattern pattern with
    | error fault =>
      rw [read] at dated
      cases dated
    | ok text =>
      rw [read] at dated
      obtain rfl := Option.some.inj (Except.ok.inj dated)
      have lower := earlier_selects.foldl_above day rest
      have upper := later_selects.foldl_above day rest
      exact ⟨earlier_selects.foldl_mem day rest, later_selects.foldl_mem day rest,
        fun d member => ⟨lower d member, upper d member⟩, rfl⟩

def rows (snapshots : List Snapshot) : List Figures :=
  (snapshots.map Snapshot.figures).mergeSort dayBefore

section Rows

variable {snapshots : List Snapshot}

theorem rows_perm (snapshots : List Snapshot) :
    (rows snapshots).Perm (snapshots.map Snapshot.figures) :=
  List.mergeSort_perm _ dayBefore

theorem rows_sorted (snapshots : List Snapshot) :
    (rows snapshots).Pairwise fun a b => a.day ≤ b.day :=
  (List.pairwise_mergeSort dayBefore_trans dayBefore_total _).imp fun before =>
    of_decide_eq_true before

theorem mem_days_rows {d : Day} :
    d ∈ (rows snapshots).map Figures.day ↔ d ∈ snapshots.map Snapshot.day := by
  have days := (rows_perm snapshots).map Figures.day
  rw [List.map_map] at days
  exact days.mem_iff

end Rows

structure Summary.DatesAgree (summary : Summary) (raws : List Value) : Prop where
  rows : summary.dailySeries.Perm ((acceptedDays raws).map fun accepted => accepted.1.figures)
  sorted : summary.dailySeries.Pairwise fun a b => a.day ≤ b.day
  first : summary.dailySeries.head?.map Figures.day = some summary.dateRange.first
  last : summary.dailySeries.getLast?.map Figures.day = some summary.dateRange.last
  latest : summary.latestDay.day = summary.dateRange.last
  between : ∀ raw ∈ raws, ∀ accepted, Daily.normalize raw = .ok accepted →
    summary.dateRange.first ≤ accepted.1.day ∧ accepted.1.day ≤ summary.dateRange.last
  counted : summary.dateRange.dayCount = summary.aggregate.dayCount
  distinct : summary.dateRange.dayCount = (summary.dailySeries.map Figures.day).dedup.length
  positive : 1 ≤ summary.dateRange.dayCount
  span : summary.dateRange.dayCount ≤
    summary.dateRange.last.ordinal - summary.dateRange.first.ordinal + 1

/-- The dates of a summary, worked out in four ways, agree with each other. -/
theorem usageSummary_datesAgree {settings : Settings} (plain : settings.Plain) {raws : List Value}
    (accepted : ∃ raw ∈ raws, (Daily.normalize raw).isOk) :
    ∃ summary, usageSummary settings (.list raws) = .ok (.found summary) ∧
      summary.DatesAgree raws := by
  obtain ⟨top, limit⟩ := plain.readLimit_ok
  obtain ⟨range, s, dated, latest, found⟩ :=
    days?_found plain (snapshots_complete raws) (snapshots_ne_nil accepted)
  have spans := dateRange_spans dated
  have spansRows := spans.congr fun d => mem_days_rows.symm
  have sorted := rows_sorted (normalizeAll raws).1
  have days := List.pairwise_map.mpr sorted
  obtain ⟨inWindow, newest⟩ := latest?_spec latest
  -- The last date is that of some snapshot, and no snapshot is newer than the latest.
  have latestDay : s.day = range.last := by
    obtain ⟨other, listed, day⟩ := List.mem_map.mp spans.last
    refine Day.le_antisymm (spans.between _ (List.mem_map_of_mem inWindow)).2 ?_
    rw [← day]
    exact newest other listed
  refine ⟨_, usageSummary_of_days limit found, ?_⟩
  exact {
    rows := by
      refine (rows_perm _).trans (.of_eq ?_)
      simp only [normalizeAll, List.map_map, Function.comp_def]
    sorted
    first := List.head?_map.symm.trans (spansRows.head? days)
    last := List.getLast?_map.symm.trans (spansRows.getLast? days)
    latest := latestDay
    between := fun raw member accepted normalized => spans.between _
      (List.mem_map_of_mem (mem_snapshots.mpr ⟨raw, member, accepted.2, normalized⟩))
    counted := spans.dayCount
    distinct := spansRows.dayCount.trans (length_distinct fun _ => Iff.rfl)
    positive := spans.positive
    span := spans.span }

def gappyWindow : List Value :=
  [.object [("date", .text "2025-03-01")],
    .object [("date", .text "2025-02-27"), ("total_active_users", .integer 3)],
    .object [("date", .text "2025-02-29")], .object [("date", .text "2025-03-01")]]

theorem gappyWindow_dates :
    ∃ summary, usageSummary .default (.list gappyWindow) = .ok (.found summary) ∧
      summary.DatesAgree gappyWindow ∧ summary.dailySeries.length = 3 := by
  have kept : ∃ raw ∈ gappyWindow, (Daily.normalize raw).isOk := by decide
  obtain ⟨summary, found, agree⟩ := usageSummary_datesAgree (Settings.default_plain .max) kept
  refine ⟨summary, found, agree, agree.rows.length_eq.trans ?_⟩
  rw [List.length_map]
  decide

end UsageMetrics.Window
