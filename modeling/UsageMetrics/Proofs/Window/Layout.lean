import UsageMetrics.Proofs.Feed.Reordering
import UsageMetrics.Proofs.Ledger.Commute
import UsageMetrics.Proofs.Window.Users

namespace UsageMetrics.Daily

open UsageMetrics.Feed

structure GroupSnapshot.Reordered (listed other : GroupSnapshot) : Prop where
  group : listed.group = other.group
  engagedUsers : listed.engagedUsers = other.engagedUsers
  entities : listed.entities.Perm other.entities

structure Snapshot.Reordered (s t : Snapshot) : Prop where
  day : s.day = t.day
  activeUsers : s.activeUsers = t.activeUsers
  engagedUsers : s.engagedUsers = t.engagedUsers
  groups : Rearranged (fun a b => a.1 = b.1 ∧ a.2.Reordered b.2) s.groups t.groups

theorem Snapshot.Reordered.refl (s : Snapshot) : s.Reordered s :=
  ⟨rfl, rfl, rfl, Rearranged.refl (fun _ => ⟨rfl, rfl, rfl, .refl _⟩) s.groups⟩

def Snapshot.GroupsDistinct (s : Snapshot) : Prop := (s.groups.map Prod.fst).Nodup

theorem Snapshot.Complete.groupsDistinct {s : Snapshot} (complete : s.Complete) :
    s.GroupsDistinct := complete.nodup_iff.mpr (by decide)

instance (s : Snapshot) : Decidable s.GroupsDistinct := inferInstanceAs (Decidable (List.Nodup _))

end UsageMetrics.Daily

namespace UsageMetrics.Window

open UsageMetrics.Calendar UsageMetrics.Daily UsageMetrics.Feed UsageMetrics.Metric

/-- Days of which only one can be the latest, each with one number of users for each of its
groups. -/
structure Datable (snapshots : List Snapshot) : Prop where
  days : (snapshots.map Snapshot.day).Nodup
  groups : ∀ s ∈ snapshots, s.GroupsDistinct

theorem Tally.meet_comm (t : Tally) (a b : EntityCounts) :
    (t.meet a).meet b = (t.meet b).meet a := by
  have counts : t.counts + a.counts + b.counts = t.counts + b.counts + a.counts := by
    apply Counts.ext_get
    intro counter
    simp only [Counts.get_add]
    omega
  simp [Tally.meet, counts, Bool.or_right_comm]

theorem tally_perm {os others : List Occurrence} (order : os.Perm others) :
    tally os = tally others :=
  Ledger.replay_perm Occurrence.key Tally.zero (fun (t : Tally) (o : Occurrence) => t.meet o.2)
    (fun t a b => t.meet_comm a.2 b.2) order .empty

theorem distinct_perm {α : Type} [DecidableEq α] {as others : List α} (order : as.Perm others) :
    (distinct as).Perm (distinct others) := by
  refine (List.perm_ext_iff_of_nodup (distinct_nodup as) (distinct_nodup others)).mpr fun a => ?_
  rw [mem_distinct, mem_distinct, order.mem_iff]

theorem groupObservations_cons (group : MetricGroup) (s : Snapshot) (rest : List Snapshot) :
    groupObservations group (s :: rest) =
      (s.groups.flatMap fun listed =>
        if listed.1 = group then [(s.day, listed.2.engagedUsers)] else []) ++
      groupObservations group rest := by
  rw [groupObservations, List.flatMap_cons]
  congr 1
  induction s.groups with
  | nil => rfl
  | cons listed others ih =>
    rw [List.filter_cons, List.flatMap_cons, ← ih]
    by_cases same : listed.1 = group <;> simp [same]

theorem groupObservations_eq_flatMap (group : MetricGroup) (snapshots : List Snapshot) :
    groupObservations group snapshots = snapshots.flatMap fun s => s.groups.flatMap fun listed =>
      if listed.1 = group then [(s.day, listed.2.engagedUsers)] else [] := by
  induction snapshots with
  | nil => rfl
  | cons s rest ih => rw [groupObservations_cons, ih, List.flatMap_cons]

theorem groupObservations_days {snapshots : List Snapshot}
    (groups : ∀ s ∈ snapshots, s.GroupsDistinct) (group : MetricGroup) :
    ((groupObservations group snapshots).map Prod.fst).Sublist (snapshots.map Snapshot.day) := by
  induction snapshots with
  | nil => exact .refl []
  | cons s rest ih =>
    obtain ⟨first, others⟩ := List.forall_mem_cons.mp groups
    have tail := ih others
    rw [groupObservations, List.flatMap_cons, filter_key first group, List.map_append,
      List.map_cons]
    cases s.groups.lookup group with
    | none => exact tail.cons s.day
    | some listed => exact tail.cons_cons s.day

section Reordered

variable {snapshots others : List Snapshot}
  (reordered : Rearranged Snapshot.Reordered snapshots others)

include reordered

theorem days_reordered : (snapshots.map Snapshot.day).Perm (others.map Snapshot.day) :=
  reordered.map_perm fun _ _ same => same.day

theorem userObservations_reordered {users : Snapshot → Int}
    (keeps : ∀ s t : Snapshot, s.Reordered t → users s = users t) :
    (userObservations users snapshots).Perm (userObservations users others) :=
  reordered.map_perm fun s t same => by rw [same.day, keeps s t same]

theorem groupObservations_reordered (group : MetricGroup) :
    (groupObservations group snapshots).Perm (groupObservations group others) := by
  rw [groupObservations_eq_flatMap, groupObservations_eq_flatMap]
  refine reordered.flatMap_perm fun s t same => ?_
  rw [same.day]
  refine same.groups.flatMap_perm fun listed other alike => ?_
  rw [alike.1, alike.2.engagedUsers]

theorem occurrences_reordered : (occurrences snapshots).Perm (occurrences others) := by
  refine reordered.flatMap_perm fun s t same => same.groups.flatMap_perm fun listed other alike => ?_
  dsimp only
  rw [alike.1]
  exact alike.2.entities.map _

theorem aggregateDays_reordered {statistic : Statistic}
    (dated : statistic = .latest → Datable snapshots) :
    aggregateDays statistic snapshots = aggregateDays statistic others := by
  have total {users : Snapshot → Int}
      (keeps : ∀ s t : Snapshot, s.Reordered t → users s = users t) :
      UserCounter.total statistic (userObservations users snapshots) =
        UserCounter.total statistic (userObservations users others) := by
    refine UserCounter.total_reordered (userObservations_reordered reordered keeps) fun latest => ?_
    rw [userObservations, List.map_map]
    exact (dated latest).days
  have active : UserCounter.total statistic (userObservations Snapshot.activeUsers snapshots) =
      UserCounter.total statistic (userObservations Snapshot.activeUsers others) :=
    total fun _ _ same => same.activeUsers
  have engaged : UserCounter.total statistic (userObservations Snapshot.engagedUsers snapshots) =
      UserCounter.total statistic (userObservations Snapshot.engagedUsers others) :=
    total fun _ _ same => same.engagedUsers
  have engagedIn (group : MetricGroup) :
      UserCounter.total statistic (groupObservations group snapshots) =
        UserCounter.total statistic (groupObservations group others) := by
    refine UserCounter.total_reordered (groupObservations_reordered reordered group)
      fun latest => ?_
    exact (groupObservations_days (dated latest).groups group).nodup (dated latest).days
  have days : (distinctDays snapshots).length = (distinctDays others).length :=
    (distinct_perm (days_reordered reordered)).length_eq
  have tallies : tally (occurrences snapshots) = tally (occurrences others) :=
    tally_perm (occurrences_reordered reordered)
  simp only [aggregateDays, active, engaged, engagedIn, days, tallies]

end Reordered

/-- How a window is laid out, down to the lists of its days, is not seen in its totals: the users of
its latest day need days that differ in their dates, and nothing else does. -/
theorem aggregateWindow_reordered (settings : Settings) {snapshots others : List Snapshot}
    (nonempty : snapshots ≠ []) (reordered : Rearranged Snapshot.Reordered snapshots others)
    (dated : settings.statistic = .latest → Datable snapshots) :
    ∃ a, aggregateWindow settings snapshots = .found a ∧
      aggregateWindow settings others = .found a := by
  have filled : others ≠ [] := by
    intro empty
    have days := days_reordered reordered
    rw [empty, List.map_nil, List.perm_nil, List.map_eq_nil_iff] at days
    exact nonempty days
  refine ⟨_, aggregateWindow_found settings nonempty, ?_⟩
  rw [aggregateWindow_found settings filled, aggregateDays_reordered reordered dated]

/-- Two days, one with a group less, whose lists are all made by one function: of the days, of the
groups of the first one and of what its chats list, a model twice among them. -/
def pairedDays (second : Day) (pair : (α : Type) → α → α → List α) : List Snapshot :=
  let model (n : Int) (custom : Bool) : EntityCounts :=
    ⟨.ideChat, .model, "m", .ofFn fun _ => n, custom⟩
  pair Snapshot
    { day := ⟨2025, 4, 1, by decide⟩
      activeUsers := -3
      engagedUsers := 2
      groups := pair (MetricGroup × GroupSnapshot)
        (.ideChat, ⟨.ideChat, 4, pair EntityCounts (model (-2) true) (model 5 false)⟩)
        (.dotcomChat, ⟨.dotcomChat, -1, []⟩) }
    { day := second, activeUsers := 7, engagedUsers := 9, groups := [(.ideChat, ⟨.ideChat, 6, []⟩)] }

theorem pairedDays_turned (second : Day) : Rearranged Snapshot.Reordered
    (pairedDays second fun _ a b => [a, b]) (pairedDays second fun _ a b => [b, a]) := by
  have chats (a b : EntityCounts) :
      GroupSnapshot.Reordered ⟨.ideChat, 4, [a, b]⟩ ⟨.ideChat, 4, [b, a]⟩ :=
    ⟨rfl, rfl, .swap b a []⟩
  refine .turned ⟨rfl, rfl, rfl, ?_⟩ (.refl _)
  exact .turned ⟨rfl, chats _ _⟩ ⟨rfl, rfl, rfl, .nil⟩

theorem pairedDays_sameTotals :
    (∃ a, aggregateWindow .default (pairedDays ⟨2025, 4, 1, by decide⟩ fun _ a b => [a, b]) =
        .found a ∧
      aggregateWindow .default (pairedDays ⟨2025, 4, 1, by decide⟩ fun _ a b => [b, a]) =
        .found a) ∧
      Datable (pairedDays ⟨2025, 4, 2, by decide⟩ fun _ a b => [a, b]) ∧
      ∃ a, aggregateWindow { Settings.default with statistic := .latest }
          (pairedDays ⟨2025, 4, 2, by decide⟩ fun _ a b => [a, b]) = .found a ∧
        aggregateWindow { Settings.default with statistic := .latest }
          (pairedDays ⟨2025, 4, 2, by decide⟩ fun _ a b => [b, a]) = .found a := by
  have datable : Datable (pairedDays ⟨2025, 4, 2, by decide⟩ fun _ a b => [a, b]) :=
    ⟨by decide, by decide⟩
  have noLatest : Settings.default.statistic ≠ .latest := by decide
  exact ⟨aggregateWindow_reordered .default (by simp [pairedDays]) (pairedDays_turned _)
      fun latest => absurd latest noLatest, datable,
    aggregateWindow_reordered { Settings.default with statistic := .latest }
      (by simp [pairedDays]) (pairedDays_turned _) fun _ => datable⟩

end UsageMetrics.Window
