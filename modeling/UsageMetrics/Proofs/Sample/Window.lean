import UsageMetrics.Proofs.Calendar.Run
import UsageMetrics.Proofs.Sample.Telemetry
import UsageMetrics.Proofs.Window.Dates
import UsageMetrics.Proofs.Window.Rates
import UsageMetrics.Proofs.Window.Skipping
import UsageMetrics.Sample.Seed

namespace UsageMetrics.Window

open UsageMetrics.Calendar UsageMetrics.Daily UsageMetrics.Feed

structure CleanDay (day : Day) (accepted : Snapshot × List Warning) : Prop where
  day : accepted.1.day = day
  silent : accepted.2 = []
  coherent : accepted.1.Coherent
  engaged : accepted.1.engagedUsers ≤ accepted.1.activeUsers

namespace CleanDay

variable {days : List Day} {accepted : List (Snapshot × List Warning)}

theorem days_eq (clean : List.Forall₂ CleanDay days accepted) :
    accepted.map (fun day => day.1.day) = days := by
  induction clean with
  | nil => rfl
  | cons first _ ih => rw [List.map_cons, first.day, ih]

theorem forall_mem (clean : List.Forall₂ CleanDay days accepted) :
    ∀ day ∈ accepted, CleanDay day.1.day day := by
  induction clean with
  | nil => exact List.forall_mem_nil _
  | cons first _ ih => exact List.forall_mem_cons.mpr ⟨first.day ▸ first, ih⟩

end CleanDay

theorem summarizeDays_ratesArePercent {raws : List Value}
    (coherent : ∀ s ∈ (normalizeAll raws).1, s.Coherent) {latest : Snapshot}
    (listed : latest ∈ (normalizeAll raws).1) (statistic : Statistic) (top : Option Nat)
    (range : DateRange) (report : Report) :
    (summarizeDays top ⟨aggregateDays statistic (normalizeAll raws).1, range, latest.figures,
      rows (normalizeAll raws).1⟩ report).RatesArePercent := by
  have aggregate := aggregateDays_ratesArePercent statistic (snapshots_complete raws) coherent
    fun s member count => users_nonneg member count
  refine {
    aggregate
    dailySeries := ?_
    latestDay := figures_isPercent (coherent latest listed)
    topLanguages := rank_isPercent aggregate _ _ _
    editorStats := rank_isPercent aggregate _ _ _
    chatEditorStats := rank_isPercent aggregate _ _ _
    modelUsage := ?_
    repositories := rank_isPercent aggregate _ _ _
    adoption := aggregate.adoption }
  · intro row member
    obtain ⟨day, inWindow, rfl⟩ := List.mem_map.mp ((rows_perm _).mem_iff.mp member)
    exact figures_isPercent (coherent day inWindow)
  · intro row member
    obtain ⟨group, -, inGroup⟩ := List.mem_flatMap.mp member
    exact rank_isPercent aggregate group _ _ row inGroup

/-- A summary of consecutive days in which nothing was skipped or dropped. -/
structure Summary.ShowsRun (summary : Summary) (first last : Day) (days : Nat) : Prop where
  inputRecords : summary.normalization.inputRecords = days
  skippedRecords : summary.normalization.skippedRecords = 0
  droppedEntities : summary.normalization.droppedEntities = 0
  dailySeries : summary.dailySeries.map (fun row => row.day.ordinal) =
    List.range' first.ordinal days
  first : summary.dateRange.first = first
  last : summary.dateRange.last = last
  dayCount : summary.dateRange.dayCount = days
  counted : summary.aggregate.dayCount = days
  engaged : ∀ row ∈ summary.dailySeries, row.engagedUsers ≤ row.activeUsers
  rates : summary.RatesArePercent

end UsageMetrics.Window

namespace UsageMetrics.Sample

open UsageMetrics.Calendar UsageMetrics.Daily UsageMetrics.Feed UsageMetrics.Window

theorem SoundOn.normalize {day : Day} {raw : Value} (sound : SoundOn day raw) :
    ∃ accepted, Daily.normalize raw = .ok accepted ∧ CleanDay day accepted := by
  obtain ⟨given, rfl, r, read, sound, fit, dated⟩ := sound
  have validated : readDaily (.object given) = .ok r := by
    rw [readDaily, read]
    intro _ same
    cases same
  refine ⟨normalizeOn day r.daily, ?_, rfl, normalizeOn_silent sound day,
    normalizeOn_coherent (sound.coherent fit) day, Int.ofNat_le.mpr fit.engaged⟩
  simp only [Daily.normalize, validated, normalizeRecord,
    (readDate_ok_iff dated).mpr day.ofIso?_iso]
  rfl

theorem mem_run_iff {days : List Day} {first last : Day}
    (run : days.map Day.ordinal = List.range' first.ordinal days.length)
    (ends : last.ordinal + 1 = first.ordinal + days.length) (d : Day) :
    d ∈ days ↔ first ≤ d ∧ d ≤ last := by
  have ordinals : d.ordinal ∈ days.map Day.ordinal ↔ d ∈ days :=
    List.mem_map_of_injective fun _ _ => Day.ordinal_injective
  rw [← ordinals, run, List.mem_range'_1, Day.le_iff, Day.le_iff]
  omega

section Records

variable {days : List Day} {records raws : List Value}

theorem acceptedDays_clean (sound : List.Forall₂ SoundOn days records) :
    List.Forall₂ CleanDay days (acceptedDays records) := by
  induction sound with
  | nil => exact .nil
  | @cons day raw _ rest first _ ih =>
    obtain ⟨accepted, normalized, clean⟩ := first.normalize
    have found : acceptedDays (raw :: rest) = accepted :: acceptedDays rest :=
      List.filterMap_cons_some (by rw [normalized]; rfl)
    rw [found]
    exact .cons clean ih

variable (order : raws.Perm records) (sound : List.Forall₂ SoundOn days records)

include order sound

theorem acceptedDays_perm : (acceptedDays raws).Perm (acceptedDays records) ∧
    ∀ accepted ∈ acceptedDays raws, CleanDay accepted.1.day accepted := by
  have perm : (acceptedDays raws).Perm (acceptedDays records) := order.filterMap _
  exact ⟨perm, fun accepted member =>
    CleanDay.forall_mem (acceptedDays_clean sound) accepted (perm.mem_iff.mp member)⟩

theorem snapshots_days : ((normalizeAll raws).1.map Snapshot.day).Perm days := by
  rw [← CleanDay.days_eq (acceptedDays_clean sound), normalizeAll, List.map_map]
  exact (acceptedDays_perm order sound).1.map _

theorem report_clean : (normalizeAll raws).2.inputRecords = days.length ∧
    (normalizeAll raws).2.skippedRecords = 0 ∧ (normalizeAll raws).2.droppedEntities = 0 := by
  obtain ⟨perm, clean⟩ := acceptedDays_perm order sound
  have given : raws.length = days.length := order.length_eq.trans sound.length_eq.symm
  have kept : (acceptedDays raws).length = days.length := by
    rw [perm.length_eq, (acceptedDays_clean sound).length_eq]
  have balance := skipped_add_accepted raws
  refine ⟨given, by simp only [normalizeAll]; omega, ?_⟩
  have none : (acceptedDays raws).map (fun day => day.2.length) =
      (acceptedDays raws).map fun _ => 0 :=
    List.map_congr_left fun accepted member => by
      rw [(clean accepted member).silent, List.length_nil]
  simp only [normalizeAll, none, List.map_const', List.sum_replicate_nat, Nat.mul_zero]

theorem snapshots_clean :
    ∀ s ∈ (normalizeAll raws).1, s.Coherent ∧ s.engagedUsers ≤ s.activeUsers := by
  obtain ⟨-, clean⟩ := acceptedDays_perm order sound
  rw [normalizeAll, List.forall_mem_map]
  exact fun accepted member => ⟨(clean accepted member).coherent, (clean accepted member).engaged⟩

theorem rows_ordinals {first : Day}
    (run : days.map Day.ordinal = List.range' first.ordinal days.length) :
    ((rows (normalizeAll raws).1).map fun row => row.day.ordinal) =
      List.range' first.ordinal days.length := by
  have sorted : ((rows (normalizeAll raws).1).map fun row => row.day.ordinal).Pairwise
      fun a b => a ≤ b := List.pairwise_map.mpr (rows_sorted _)
  have counting : (List.range' first.ordinal days.length).Pairwise fun a b => a ≤ b :=
    (List.pairwise_lt_range' 1).imp Nat.le_of_lt
  have same : ((rows (normalizeAll raws).1).map fun row => row.day.ordinal).Perm
      (List.range' first.ordinal days.length) := by
    have ordinals := (snapshots_days order sound).map Day.ordinal
    rw [List.map_map, run] at ordinals
    refine ((rows_perm _).map _).trans ?_
    rw [List.map_map]
    exact ordinals
  exact same.eq_of_pairwise (fun _ _ _ _ => Nat.le_antisymm) sorted counting

theorem summary_showsRun {settings : Settings} (plain : settings.Plain) {first last : Day}
    (run : days.map Day.ordinal = List.range' first.ordinal days.length) (nonempty : days ≠ [])
    (ends : last.ordinal + 1 = first.ordinal + days.length) :
    ∃ summary, usageSummary settings (.list raws) = .ok (.found summary) ∧
      summary.ShowsRun first last days.length := by
  have listed := snapshots_days order sound
  have clean := snapshots_clean order sound
  obtain ⟨inputRecords, skippedRecords, droppedEntities⟩ := report_clean order sound
  have made : (normalizeAll raws).1 ≠ [] := by
    intro empty
    rw [empty] at listed
    exact nonempty (List.nil_perm.mp listed)
  obtain ⟨top, limit⟩ := plain.readLimit_ok
  obtain ⟨range, s, dated, latest, found⟩ :=
    days?_found plain (snapshots_complete raws) made
  have spans := (dateRange_spans dated).congr fun d => listed.mem_iff
  have numbered := mem_run_iff run ends
  have long : 0 < days.length := List.length_pos_iff.mpr nonempty
  have within : first ≤ last := by
    rw [Day.le_iff]
    omega
  -- Days that follow each other are all different, so there are as many dates as days.
  have once : days.Nodup := .of_map Day.ordinal (by rw [run]; exact List.nodup_range')
  have dayCount : range.dayCount = days.length := by
    rw [spans.dayCount, length_distinct fun _ => Iff.rfl, once.dedup]
  refine ⟨_, usageSummary_of_days limit found, {
    inputRecords
    skippedRecords
    droppedEntities
    dailySeries := ?_
    first := ?_
    last := ?_
    dayCount
    counted := (dateRange_spans dated).dayCount.symm.trans dayCount
    engaged := ?_
    rates := summarizeDays_ratesArePercent (fun s member => (clean s member).1)
      (latest?_spec latest).1 _ _ _ _ }⟩
  · exact rows_ordinals order sound run
  · have own := (numbered first).mpr ⟨Nat.le_refl _, within⟩
    exact Day.le_antisymm (spans.between first own).1 ((numbered _).mp spans.first).1
  · have own := (numbered last).mpr ⟨within, Nat.le_refl _⟩
    exact Day.le_antisymm ((numbered _).mp spans.last).2 (spans.between last own).2
  · intro row member
    obtain ⟨day, inWindow, rfl⟩ := List.mem_map.mp ((rows_perm _).mem_iff.mp member)
    exact (clean day inWindow).2

end Records

/-- Made-up telemetry is clean, whatever the seed: every number is drawn within bounds that leave
something to draw, and only names that the feed accepts are drawn. -/
theorem telemetry_showsRun {settings : Settings} (plain : settings.Plain) {days : Int}
    (positive : 1 ≤ days) {start last : Day} (room : (last.ordinal : Int) = start.ordinal + (days - 1))
    (seed : Int) :
    ∃ state raws summary, Seed.read? (.integer seed) = some state ∧
      telemetry? days start state = some raws ∧
      usageSummary settings (.list raws) = .ok (.found summary) ∧
      summary.ShowsRun start last days.toNat := by
  obtain ⟨more, rfl⟩ : ∃ more : Nat, days = more + 1 := ⟨(days - 1).toNat, by omega⟩
  have count : (more + 1 : Int).toNat = more + 1 := by omega
  have reached : last.ordinal = start.ordinal + more := by omega
  obtain ⟨run, calendar, ordinals⟩ := start.exists_run? ⟨last, reached⟩
  have length : run.length = more + 1 := by
    simpa using congrArg List.length ordinals
  have ends : last.ordinal + 1 = start.ordinal + run.length := by omega
  rw [← length] at ordinals
  obtain ⟨raws, _, drawn, records, order, sound⟩ :=
    drawWindow_sound run (Twister.ofSeed seed.natAbs)
  have listed : run ≠ [] := List.length_pos_iff.mp (by omega)
  obtain ⟨summary, found, shows⟩ :=
    summary_showsRun order sound plain ordinals listed ends
  refine ⟨_, raws, summary, rfl, ?_, found, ?_⟩
  · unfold telemetry?
    rw [count, calendar, Option.bind_some, StateT.run, drawn]
    rfl
  · rw [count, ← length]
    exact shows

theorem leapDays_showRun : ∃ start last : Day, start.iso = "2024-02-28" ∧ last.iso = "2024-03-01" ∧
    (last.ordinal : Int) = start.ordinal + (3 - 1) ∧ ∃ state raws summary,
      Seed.read? (.integer (-42)) = some state ∧ telemetry? 3 start state = some raws ∧
      usageSummary .default (.list raws) = .ok (.found summary) ∧
      summary.ShowsRun start last 3 := by
  have room : (Day.ordinal ⟨2024, 3, 1, by decide⟩ : Int) =
      Day.ordinal ⟨2024, 2, 28, by decide⟩ + (3 - 1) := by decide
  exact ⟨_, _, by decide, by decide, room,
    telemetry_showsRun (Settings.default_plain .max) (by decide) room (-42)⟩

end UsageMetrics.Sample
