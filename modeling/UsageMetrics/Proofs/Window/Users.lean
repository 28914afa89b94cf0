import UsageMetrics.Proofs.Window.Selection
import UsageMetrics.Proofs.Window.Trend
import UsageMetrics.Proofs.Window.UserCounter

namespace UsageMetrics.Daily

open UsageMetrics.Calendar UsageMetrics.Metric UsageMetrics.Feed

inductive UserCount where
  | active
  | engaged
  | engagedIn (group : MetricGroup)

def Snapshot.users (s : Snapshot) : UserCount → Int
  | .active => s.activeUsers
  | .engaged => s.engagedUsers
  | .engagedIn group => (s.listed group).engagedUsers

def Figures.users (f : Figures) : UserCount → Int
  | .active => f.activeUsers
  | .engaged => f.engagedUsers
  | .engagedIn .codeCompletions => f.completionUsers
  | .engagedIn .ideChat => f.ideChatUsers
  | .engagedIn .dotcomChat => f.dotcomChatUsers
  | .engagedIn .pullRequests => f.prSummaryUsers

theorem users_figures (s : Snapshot) (count : UserCount) :
    s.figures.users count = s.users count := by
  cases count with
  | active => rfl
  | engaged => rfl
  | engagedIn group => cases group <;> rfl

theorem users_normalizeOn_nonneg (day : Day) (r : DailyRecord) (count : UserCount) :
    0 ≤ (normalizeOn day r).1.users count := by
  cases count with
  | active => exact Int.natCast_nonneg r.activeUsers
  | engaged => exact Int.natCast_nonneg r.engagedUsers
  | engagedIn group => cases group <;> exact Int.natCast_nonneg _

end UsageMetrics.Daily

namespace UsageMetrics.Window

open UsageMetrics.Calendar UsageMetrics.Daily UsageMetrics.Feed UsageMetrics.Metric

def Aggregate.users (a : Aggregate) : UserCount → Int
  | .active => a.activeUsers
  | .engaged => a.engagedUsers
  | .engagedIn group => a.groupEngagedUsers.get group

def observations (count : UserCount) (snapshots : List Snapshot) : List (Day × Int) :=
  snapshots.map fun s => (s.day, s.users count)

variable {snapshots : List Snapshot}

theorem groupObservations_eq (group : MetricGroup) (complete : ∀ s ∈ snapshots, s.Complete) :
    groupObservations group snapshots = observations (.engagedIn group) snapshots := by
  induction snapshots with
  | nil => rfl
  | cons s rest ih =>
    obtain ⟨first, others⟩ := List.forall_mem_cons.mp complete
    have tail := ih others
    simp only [groupObservations, observations, List.flatMap_cons, List.map_cons,
      first.filter_group] at tail ⊢
    rw [tail]
    rfl

theorem users_aggregateDays (statistic : Statistic) (complete : ∀ s ∈ snapshots, s.Complete)
    (count : UserCount) :
    (aggregateDays statistic snapshots).users count =
      UserCounter.total statistic (observations count snapshots) := by
  cases count with
  | active => rfl
  | engaged => rfl
  | engagedIn group =>
    rw [← groupObservations_eq group complete]
    exact PerGroup.get_ofFn _ group

section Latest

theorem exists_latest (nonempty : snapshots ≠ []) : ∃ s, latest? snapshots = some s := by
  cases snapshots with
  | nil => exact absurd rfl nonempty
  | cons first rest => exact ⟨_, rfl⟩

theorem latest?_spec {s : Snapshot} (latest : latest? snapshots = some s) :
    s ∈ snapshots ∧ ∀ other ∈ snapshots, other.day ≤ s.day := by
  cases snapshots with
  | nil => cases latest
  | cons first rest =>
    obtain rfl := Option.some.inj latest
    exact ⟨newer_selects.foldl_mem first rest, newer_selects.foldl_above first rest⟩

theorem observeAll_latest (count : UserCount) (best : Snapshot) (rest : List Snapshot) :
    UserCounter.observeAll .latest ⟨some best.day, best.users count⟩ (observations count rest) =
      ⟨some (rest.foldl newer best).day, (rest.foldl newer best).users count⟩ := by
  induction rest generalizing best with
  | nil => rfl
  | cons s others ih =>
    -- Both compare strictly, so both keep the first of the days that tie.
    have step : UserCounter.observe .latest ⟨some best.day, best.users count⟩ s.day
        (s.users count) = ⟨some (newer best s).day, (newer best s).users count⟩ := by
      simp only [UserCounter.observe, newer]
      split <;> rfl
    rw [observations, List.map_cons, UserCounter.observeAll_cons, step]
    exact ih (newer best s)

theorem total_latest {s : Snapshot} (latest : latest? snapshots = some s) (count : UserCount) :
    UserCounter.total .latest (observations count snapshots) = s.users count := by
  cases snapshots with
  | nil => cases latest
  | cons first rest =>
    obtain rfl := Option.some.inj latest
    exact congrArg UserCounter.value (observeAll_latest count first rest)

end Latest

theorem total_max (count : UserCount) (nonempty : snapshots ≠ [])
    (nonneg : ∀ s ∈ snapshots, 0 ≤ s.users count) :
    (snapshots.map fun s => s.users count).max? =
      some (UserCounter.total .max (observations count snapshots)) := by
  have folded : UserCounter.total .max (observations count snapshots) =
      (snapshots.map fun s => s.users count).foldl max 0 := by
    rw [UserCounter.total_eq, UserCounter.observeAll_max, observations, List.map_map]
    rfl
  rw [folded, List.foldl_max]
  cases found : (snapshots.map fun s => s.users count).max? with
  | none => simp_all
  | some most =>
    -- The counter starts from zero, which no number of users is below.
    obtain ⟨member, -⟩ := List.max?_eq_some_iff.mp found
    obtain ⟨s, inWindow, rfl⟩ := List.mem_map.mp member
    rw [Option.getD_some, Int.max_eq_right (nonneg s inWindow)]

/-- The users of a window are those of its latest day, or of each number the most that a row of the
chart shows. -/
def Aggregate.UsersFollow (a : Aggregate) (snapshots : List Snapshot) : Statistic → Prop
  | .latest => ∃ s ∈ snapshots, ∃ figures, (∀ other ∈ snapshots, other.day ≤ s.day) ∧
      Figures.ofSnapshot s = .ok figures ∧ latestFigures snapshots = .ok (some figures) ∧
        ∀ count, a.users count = figures.users count
  | .max => ∃ rows, series snapshots = .ok rows ∧
      ∀ count, (rows.map fun row => row.users count).max? = some (a.users count)

theorem latestFigures_ok (complete : ∀ s ∈ snapshots, s.Complete) {s : Snapshot}
    (latest : latest? snapshots = some s) : latestFigures snapshots = .ok (some s.figures) := by
  rw [latestFigures, latest]
  dsimp only
  rw [(complete s (latest?_spec latest).1).figures_ok]
  rfl

theorem max?_perm {counts others : List Int} (order : counts.Perm others) :
    counts.max? = others.max? := by
  apply Option.ext
  intro most
  simp only [List.max?_eq_some_iff, order.mem_iff]

theorem aggregateDays_usersFollow (statistic : Statistic) (nonempty : snapshots ≠ [])
    (complete : ∀ s ∈ snapshots, s.Complete)
    (nonneg : ∀ s ∈ snapshots, ∀ count, 0 ≤ s.users count) :
    (aggregateDays statistic snapshots).UsersFollow snapshots statistic := by
  cases statistic with
  | latest =>
    obtain ⟨s, latest⟩ := exists_latest nonempty
    obtain ⟨member, above⟩ := latest?_spec latest
    refine ⟨s, member, s.figures, above, (complete s member).figures_ok,
      latestFigures_ok complete latest, fun count => ?_⟩
    rw [users_aggregateDays .latest complete, total_latest latest, users_figures]
  | max =>
    refine ⟨_, series_ok complete, fun count => ?_⟩
    have sorted := ((snapshots.map Snapshot.figures).mergeSort_perm dayBefore).map
      fun row => row.users count
    rw [max?_perm sorted, List.map_map, users_aggregateDays .max complete,
      ← total_max count nonempty fun s member => nonneg s member count]
    simp only [Function.comp_def, users_figures]

theorem exists_normalizeOn {raws : List Value} {s : Snapshot} (member : s ∈ (normalizeAll raws).1) :
    ∃ day, ∃ r ∈ validated raws, s = (normalizeOn day r).1 := by
  obtain ⟨raw, inFeed, warnings, accepted⟩ := mem_snapshots.mp member
  obtain ⟨record, day, read, -, result⟩ := normalize_ok accepted
  have valid : record.daily ∈ validated raws :=
    List.mem_filterMap.mpr ⟨raw, inFeed, by simp [read, Except.toOption]⟩
  exact ⟨day, record.daily, valid, congrArg Prod.fst result⟩

theorem snapshots_complete (raws : List Value) : ∀ s ∈ (normalizeAll raws).1, s.Complete := by
  intro s member
  obtain ⟨day, r, -, rfl⟩ := exists_normalizeOn member
  exact normalizeOn_complete day r

theorem users_nonneg {raws : List Value} {s : Snapshot} (member : s ∈ (normalizeAll raws).1)
    (count : UserCount) : 0 ≤ s.users count := by
  obtain ⟨day, r, -, rfl⟩ := exists_normalizeOn member
  exact users_normalizeOn_nonneg day r count

/-- The users of a window are told of it as they are told of its days, under either statistic. -/
theorem window_usersFollow (settings : Settings) {raws : List Value}
    (nonempty : (normalizeAll raws).1 ≠ []) :
    ∃ a, aggregateWindow settings (normalizeAll raws).1 = .found a ∧
      a.UsersFollow (normalizeAll raws).1 settings.statistic := by
  refine ⟨_, aggregateWindow_found settings nonempty, aggregateDays_usersFollow settings.statistic
    nonempty (snapshots_complete raws) fun s member count => users_nonneg member count⟩

def tiedDates : List Value :=
  let record (date : String) (active chat : Int) : Value := .object
    [("date", .text date), ("total_active_users", .integer active),
      ("copilot_ide_chat", .object [("total_engaged_users", .integer chat)])]
  [record "2025-01-01" 9 1, record "2025-01-02" 4 3, record "2025-01-02" 7 2]

theorem tiedDates_usersFollow :
    (normalizeAll tiedDates).1 ≠ [] ∧
      (∃ a, aggregateWindow .default (normalizeAll tiedDates).1 = .found a ∧
        a.UsersFollow (normalizeAll tiedDates).1 .max) ∧
      ∃ a, aggregateWindow { Settings.default with statistic := .latest }
          (normalizeAll tiedDates).1 = .found a ∧
        a.UsersFollow (normalizeAll tiedDates).1 .latest := by
  have nonempty : (normalizeAll tiedDates).1 ≠ [] := by decide
  exact ⟨nonempty, window_usersFollow .default nonempty,
    window_usersFollow { Settings.default with statistic := .latest } nonempty⟩

end UsageMetrics.Window
