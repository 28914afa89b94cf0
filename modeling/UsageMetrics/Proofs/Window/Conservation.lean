import UsageMetrics.Proofs.Daily.Intake
import UsageMetrics.Proofs.Window.Intake
import UsageMetrics.Proofs.Window.ReferenceFold

namespace UsageMetrics.Window

open UsageMetrics.Calendar UsageMetrics.Daily UsageMetrics.Feed UsageMetrics.Metric

theorem sliceSum_listed (statistic : Statistic) (snapshots : List Snapshot) (group : MetricGroup)
    (dimension : Dimension) (counter : Counter) :
    (aggregateDays statistic snapshots).sliceSum group dimension counter =
      (((listedUnder group snapshots).filter fun e => e.dimension == dimension).map fun e =>
        e.counts.get counter).sum := by
  rw [Aggregate.sliceSum_eq, sum_tally, ← occurrences_under, List.map_map]
  induction occurrences snapshots with
  | nil => rfl
  | cons o rest ih =>
    rw [List.map_cons, List.sum_cons, ih, List.filter_cons]
    split <;> simp

theorem listedUnder_normalizeOn (group : MetricGroup) (day : Day) (r : DailyRecord)
    (snapshots : List Snapshot) :
    listedUnder group ((normalizeOn day r).1 :: snapshots) =
      (normalizeGroup r day.iso group).1.entities ++ listedUnder group snapshots := by
  cases group <;> simp [listedUnder, normalizeOn, ofGroups, MetricGroup.all]

theorem sum_listedUnder {raws : List Value} (accepted : ∀ raw ∈ raws, (Daily.normalize raw).isOk)
    (named : ∀ r ∈ validated raws, r.AllNamed) {group : MetricGroup} {dimension : Dimension}
    (sliced : dimension ∈ group.reslicings) {counter : Counter} (event : counter ≠ .engagedUsers) :
    (((listedUnder group (normalizeAll raws).1).filter fun e => e.dimension == dimension).map
      fun e => e.counts.get counter).sum =
        eventSum counter ((validated raws).flatMap fun r => r.innermost group) := by
  induction raws with
  | nil => rfl
  | cons raw rest ih =>
    obtain ⟨acceptedFirst, acceptedRest⟩ := List.forall_mem_cons.mp accepted
    obtain ⟨result, normalized⟩ := exists_ok acceptedFirst
    obtain ⟨record, day, read, -, rfl⟩ := normalize_ok normalized
    have records : validated (raw :: rest) = record.daily :: validated rest := by
      simp [validated, read, Except.toOption]
    rw [records] at named ⊢
    obtain ⟨namedFirst, namedRest⟩ := List.forall_mem_cons.mp named
    rw [snapshots_cons normalized, listedUnder_normalizeOn, List.filter_append, List.map_append,
      List.sum_append, List.flatMap_cons, eventSum_append, ih acceptedRest namedRest,
      sum_normalizeGroup namedFirst day.iso sliced event]

namespace Aggregate

def Conserves (a : Aggregate) (records : List DailyRecord) : Prop :=
  ∀ group, ∀ event ∈ a.eventTotals group,
    (∀ dimension ∈ group.reslicings, a.sliceSum group dimension event.1 = event.2) ∧
      event.2 = ((records.flatMap fun r => r.innermost group).map fun e => (e event.1 : Int)).sum

theorem eventTotals_event (a : Aggregate) (group : MetricGroup) {event : Counter × Int}
    (member : event ∈ a.eventTotals group) : event.1 ≠ .engagedUsers := by
  intro users
  cases group <;> simp [eventTotals, Prod.ext_iff, users] at member

end Aggregate

theorem primary_resliced (group : MetricGroup) : group.primary ∈ group.reslicings := by
  cases group <;> simp [MetricGroup.primary, MetricGroup.reslicings]

theorem aggregateDays_conserves (statistic : Statistic) {raws : List Value}
    (accepted : ∀ raw ∈ raws, (Daily.normalize raw).isOk)
    (named : ∀ r ∈ validated raws, r.AllNamed) :
    (aggregateDays statistic (normalizeAll raws).1).Conserves (validated raws) := by
  intro group event member
  have isEvent := Aggregate.eventTotals_event _ group member
  have sum (dimension : Dimension) (sliced : dimension ∈ group.reslicings) :=
    (sliceSum_listed statistic (normalizeAll raws).1 group dimension event.1).trans
      (sum_listedUnder accepted named sliced isEvent)
  have total := Aggregate.eventTotals_primary statistic _ group member
  rw [sum _ (primary_resliced group)] at total
  exact ⟨fun dimension sliced => (sum dimension sliced).trans total.symm, total⟩

/-- A window of accepted records with named entries neither loses nor invents an event. -/
theorem events_conserved (settings : Settings) (raws : List Value)
    (accepted : ∀ raw ∈ raws, (Daily.normalize raw).isOk)
    (named : ∀ r ∈ validated raws, r.AllNamed) :
    (raws = [] ∧ aggregateWindow settings (normalizeAll raws).1 = .noData emptyWindow) ∨
      ∃ a, aggregateWindow settings (normalizeAll raws).1 = .found a ∧
        a.Conserves (validated raws) := by
  cases raws with
  | nil => exact .inl ⟨rfl, rfl⟩
  | cons raw rest =>
    obtain ⟨result, normalized⟩ := exists_ok (accepted raw List.mem_cons_self)
    have nonempty : (normalizeAll (raw :: rest)).1 ≠ [] := by
      simp [snapshots_cons normalized]
    exact .inr ⟨_, aggregateWindow_found settings nonempty,
      aggregateDays_conserves settings.statistic accepted named⟩

def sharedModelRecord : Value :=
  let language (n : Int) : Value := .object
    [("name", .text "go"), ("total_code_suggestions", .integer (2 * n)),
      ("total_code_acceptances", .integer n)]
  let model (n : Int) : Value := .object
    [("name", .text "m"), ("languages", .list [language n, language (n + 1)])]
  let chat : Value := .object [("name", .text "m"), ("total_chats", .integer 4)]
  .object
    [("date", .text "2025-01-01"),
      ("copilot_ide_code_completions", .object [("editors", .list
        [.object [("name", .text "vim"), ("models", .list [model 1, model 5])],
          .object [("name", .text "emacs"), ("models", .list [model 7])]])]),
      ("copilot_dotcom_chat", .object [("models", .list [chat, chat])])]

theorem sharedModelRecord_twice_conserved :
    (∀ raw ∈ [sharedModelRecord, sharedModelRecord], (Daily.normalize raw).isOk) ∧
      (∀ r ∈ validated [sharedModelRecord, sharedModelRecord], r.AllNamed) ∧
      ([sharedModelRecord, sharedModelRecord] = [] ∧ aggregateWindow .default
          (normalizeAll [sharedModelRecord, sharedModelRecord]).1 = .noData emptyWindow ∨
        ∃ a, aggregateWindow .default
            (normalizeAll [sharedModelRecord, sharedModelRecord]).1 = .found a ∧
          a.Conserves (validated [sharedModelRecord, sharedModelRecord])) :=
  ⟨by decide, by decide,
    events_conserved .default [sharedModelRecord, sharedModelRecord] (by decide) (by decide)⟩

end UsageMetrics.Window
