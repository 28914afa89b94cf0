import UsageMetrics.Proofs.Daily.NormalForm
import UsageMetrics.Proofs.Window.Dates

namespace UsageMetrics.Window

open UsageMetrics.Calendar UsageMetrics.Daily UsageMetrics.Feed UsageMetrics.Metric

def Reports (key : WindowKey) (s : Snapshot) : Prop :=
  ∃ e ∈ (s.listed key.1).entities, e.dimension = key.2.1 ∧ e.name = key.2.2

instance (key : WindowKey) (s : Snapshot) : Decidable (Reports key s) :=
  inferInstanceAs (Decidable (∃ e ∈ (s.listed key.1).entities, _))

def datesOf (key : WindowKey) (snapshots : List Snapshot) : List Day :=
  (snapshots.filter fun s => Reports key s).map Snapshot.day

theorem snapshots_normal (raws : List Value) : ∀ s ∈ (normalizeAll raws).1, s.Normal := by
  intro s inWindow
  obtain ⟨raw, -, warnings, accepted⟩ := mem_snapshots.mp inWindow
  obtain ⟨record, day, -, -, made⟩ := normalize_ok accepted
  obtain rfl : s = (normalizeOn day record.daily).1 := congrArg Prod.fst made
  exact normalizeOn_normal day record.daily

theorem length_listed {s : Snapshot} (normal : s.Normal) (key : WindowKey) :
    ((s.listed key.1).entities.filter fun e =>
      e.dimension == key.2.1 && e.name == key.2.2).length = if Reports key s then 1 else 0 := by
  have once := List.nodup_iff_count_le_one.mp (normal.group key.1).distinct key.2
  rw [List.count, List.countP_map, List.countP_eq_length_filter] at once
  split
  · rename_i reports
    obtain ⟨e, member, named⟩ := reports
    have kept : e ∈ (s.listed key.1).entities.filter fun e =>
        e.dimension == key.2.1 && e.name == key.2.2 :=
      List.mem_filter.mpr ⟨member, by simpa using named⟩
    exact Nat.le_antisymm once (List.length_pos_of_mem kept)
  · rename_i absent
    rw [List.length_eq_zero_iff, List.filter_eq_nil_iff]
    intro e member named
    exact absent ⟨e, member, by simpa using named⟩

section Window

variable {snapshots : List Snapshot} (key : WindowKey)

theorem length_listedAs (normal : ∀ s ∈ snapshots, s.Normal) :
    (listedAs key snapshots).length = (datesOf key snapshots).length := by
  -- Induction on the days: each of them adds one to both sides, or nothing.
  induction snapshots with
  | nil => rfl
  | cons s rest ih =>
    obtain ⟨first, others⟩ := List.forall_mem_cons.mp normal
    have tail := ih others
    rw [listedAs, datesOf, List.length_map] at tail ⊢
    rw [listedUnder_cons key.1 first.complete, List.filter_append, List.length_append, tail,
      length_listed first, List.filter_cons]
    by_cases reports : Reports key s
    · simp [reports, Nat.add_comm]
    · simp [reports]

theorem datesOf_ne_nil (normal : ∀ s ∈ snapshots, s.Normal)
    (present : ∃ e, e ∈ listedAs key snapshots) : datesOf key snapshots ≠ [] := by
  obtain ⟨e, listed⟩ := present
  have some := List.length_pos_of_mem listed
  rw [length_listedAs key normal] at some
  exact List.ne_nil_of_length_pos some

theorem length_dedup_datesOf_le :
    (datesOf key snapshots).dedup.length ≤ (distinctDays snapshots).length := by
  refine (List.subperm_of_subset (List.nodup_dedup _) fun d member => ?_).length_le
  obtain ⟨s, reporting, rfl⟩ := List.mem_map.mp (List.mem_dedup.mp member)
  exact mem_distinct.mpr (List.mem_map_of_mem (List.mem_of_mem_filter reporting))

end Window

theorem length_eq_dedup_iff {days : List Day} : days.length = days.dedup.length ↔ days.Nodup := by
  constructor
  · intro same
    exact List.dedup_eq_self.mp ((List.dedup_sublist days).eq_of_length same.symm)
  · intro once
    rw [once.dedup]

/-- An entity counts the days that report it. Of their dates none is outside the window, but a date
may come more than once. -/
structure Entity.Present (e : Entity) (dates : List Day) (dayCount : Nat) : Prop where
  counted : e.daysPresent = dates.length
  positive : 1 ≤ e.daysPresent
  inWindow : dates.dedup.length ≤ dayCount
  exactly : e.daysPresent = dates.dedup.length ↔ dates.Nodup
  bounded : dates.Nodup → e.daysPresent ≤ dayCount

theorem Entity.Present.of_counted {e : Entity} {dates : List Day} {dayCount : Nat}
    (counted : e.daysPresent = dates.length) (nonempty : dates ≠ [])
    (inWindow : dates.dedup.length ≤ dayCount) : e.Present dates dayCount := by
  have exactly : e.daysPresent = dates.dedup.length ↔ dates.Nodup := by
    rw [counted, Int.natCast_inj, length_eq_dedup_iff]
  have some := List.length_pos_of_ne_nil nonempty
  refine ⟨counted, by omega, inWindow, exactly, fun once => ?_⟩
  rw [exactly.mpr once]
  exact Int.ofNat_le.mpr inWindow

theorem aggregateDays_presence (statistic : Statistic) {snapshots : List Snapshot}
    (normal : ∀ s ∈ snapshots, s.Normal) {group : MetricGroup} {dimension : Dimension}
    {name : String} {e : Entity}
    (holds : (aggregateDays statistic snapshots).entities.Holds group dimension name e) :
    e.Present (datesOf (group, dimension, name) snapshots)
      (aggregateDays statistic snapshots).dayCount := by
  have counted := (aggregateDays_sums statistic snapshots holds).daysPresent
  rw [length_listedAs _ normal] at counted
  obtain ⟨s, inWindow, listed, inDay, o, member, named⟩ :=
    (aggregateDays_present statistic snapshots group dimension name).mp ⟨e, holds⟩
  have present : o ∈ listedAs (group, dimension, name) snapshots :=
    List.mem_filter.mpr ⟨mem_listedUnder.mpr ⟨s, inWindow, listed, inDay, member⟩,
      by simpa using named⟩
  exact .of_counted counted (datesOf_ne_nil _ normal ⟨o, present⟩) (length_dedup_datesOf_le _)

/-- Every entity of a window is counted on at least one day, and on no more days than the window has
if no two of the days that report it have one date. -/
theorem aggregateWindow_presence (settings : Settings) {raws : List Value}
    (accepted : ∃ raw ∈ raws, (Daily.normalize raw).isOk) :
    ∃ a, aggregateWindow settings (normalizeAll raws).1 = .found a ∧
      ∀ group dimension name e, a.entities.Holds group dimension name e →
        e.Present (datesOf (group, dimension, name) (normalizeAll raws).1) a.dayCount :=
  ⟨_, aggregateWindow_found settings (snapshots_ne_nil accepted), fun _ _ _ _ holds =>
    aggregateDays_presence settings.statistic (snapshots_normal raws) holds⟩

def editorDay (date editor : String) : Value :=
  .object [("date", .text date), ("copilot_ide_chat", .object
    [("editors", .list [.object [("name", .text editor), ("total_engaged_users", .integer 1)]])])]

def scatteredDays : List Value :=
  [editorDay "2025-01-03" "vim", editorDay "2025-01-02" "emacs", editorDay "2025-01-01" "vim",
    editorDay "2025-01-02" "nano", .object [("date", .text "2025-02-30")]]

theorem scatteredDays_presence :
    ∃ a e, aggregateWindow .default (normalizeAll scatteredDays).1 = .found a ∧
      a.entities.Holds .ideChat .editor "vim" e ∧ e.daysPresent = 2 ∧ e.daysPresent ≤ a.dayCount := by
  have kept : ∃ raw ∈ scatteredDays, (Daily.normalize raw).isOk := by decide
  have dates : datesOf (.ideChat, .editor, "vim") (normalizeAll scatteredDays).1 =
      [⟨2025, 1, 3, by decide⟩, ⟨2025, 1, 1, by decide⟩] := by decide
  have listed : ((aggregateDays Settings.default.statistic (normalizeAll scatteredDays).1).entities
      |>.entity? .ideChat .editor "vim").isSome := by decide
  obtain ⟨a, found, present⟩ := aggregateWindow_presence .default kept
  obtain rfl := Outcome.found.inj
    ((aggregateWindow_found .default (snapshots_ne_nil kept)).symm.trans found)
  obtain ⟨e, stands⟩ := Option.isSome_iff_exists.mp listed
  have holds := EntityMap.holds_iff.mpr stands
  have presence := present _ _ _ _ holds
  rw [dates] at presence
  exact ⟨_, e, found, holds, presence.counted, presence.bounded (by decide)⟩

def twiceToldDay : List Value := [editorDay "2025-01-01" "vim", editorDay "2025-01-01" "vim"]

theorem twiceToldDay_exceeds :
    ∃ a e, aggregateWindow .default (normalizeAll twiceToldDay).1 = .found a ∧
      a.entities.Holds .ideChat .editor "vim" e ∧ a.dayCount < e.daysPresent := by
  have kept : ∃ raw ∈ twiceToldDay, (Daily.normalize raw).isOk := by decide
  have counted : ((aggregateDays Settings.default.statistic (normalizeAll twiceToldDay).1).entities
      |>.entity? .ideChat .editor "vim").map Entity.daysPresent = some 2 := by decide
  have days : (aggregateDays Settings.default.statistic (normalizeAll twiceToldDay).1).dayCount =
      1 := by decide
  obtain ⟨e, stands, twice⟩ := Option.map_eq_some_iff.mp counted
  refine ⟨_, e, aggregateWindow_found .default (snapshots_ne_nil kept),
    EntityMap.holds_iff.mpr stands, ?_⟩
  omega

end UsageMetrics.Window
