import UsageMetrics.Proofs.Ledger.Total
import UsageMetrics.Proofs.Window.EntityMap
import UsageMetrics.Window.Views

namespace UsageMetrics.Window

open UsageMetrics.Daily UsageMetrics.Metric

theorem get_sumCounts (counts : List Counts) (counter : Counter) :
    (sumCounts counts).get counter = (counts.map fun c => c.get counter).sum := by
  suffices shifted : ∀ start : Counts, (counts.foldl (· + ·) start).get counter =
      start.get counter + (counts.map fun c => c.get counter).sum by
    simpa [sumCounts] using shifted .zero
  induction counts with
  | nil => simp
  | cons c rest ih =>
    intro start
    rw [List.foldl_cons, ih, Counts.get_add, List.map_cons, List.sum_cons]
    omega

namespace Tally

def ofAll (os : List Occurrence) : Tally := os.foldl (fun t o => t.meet o.2) .zero

theorem foldl_meet (os : List Occurrence) (t : Tally) :
    (∀ counter, (os.foldl (fun t o => t.meet o.2) t).counts.get counter =
        t.counts.get counter + (os.map fun o => o.2.counts.get counter).sum) ∧
      (os.foldl (fun t o => t.meet o.2) t).daysPresent = t.daysPresent + os.length ∧
      (os.foldl (fun t o => t.meet o.2) t).isCustom =
        (t.isCustom || os.any fun o => o.2.isCustom) := by
  induction os generalizing t with
  | nil => simp
  | cons o rest ih =>
    obtain ⟨counts, days, custom⟩ := ih (t.meet o.2)
    refine ⟨fun counter => ?_, ?_, ?_⟩
    · rw [List.foldl_cons, counts, meet, Counts.get_add, List.map_cons, List.sum_cons]
      omega
    · rw [List.foldl_cons, days, List.length_cons]
      simp only [meet]
      omega
    · rw [List.foldl_cons, custom, meet, List.any_cons, Bool.or_assoc]

theorem get_ofAll (os : List Occurrence) (counter : Counter) :
    (ofAll os).counts.get counter = (os.map fun o => o.2.counts.get counter).sum := by
  rw [ofAll, (foldl_meet os .zero).1]
  simp [zero]

theorem daysPresent_ofAll (os : List Occurrence) : (ofAll os).daysPresent = os.length := by
  rw [ofAll, (foldl_meet os .zero).2.1]
  simp [zero]

theorem isCustom_ofAll (os : List Occurrence) :
    (ofAll os).isCustom = os.any fun o => o.2.isCustom := by
  rw [ofAll, (foldl_meet os .zero).2.2]
  simp [zero]

end Tally

theorem get?_tally (os : List Occurrence) (key : WindowKey) :
    (tally os).get? key =
      if os.any fun o => o.key == key then some (.ofAll (os.filter fun o => o.key == key))
      else none :=
  Ledger.get?_replay Occurrence.key Tally.zero (fun (t : Tally) (o : Occurrence) => t.meet o.2) os
    .empty key

theorem sum_tally (os : List Occurrence) (group : MetricGroup) (dimension : Dimension)
    (counter : Counter) :
    (((tally os).entries.filter fun entry =>
        entry.1.1 == group && entry.1.2.1 == dimension).map fun entry =>
          entry.2.counts.get counter).sum =
      (os.map fun o =>
        if o.1 == group && o.2.dimension == dimension then o.2.counts.get counter else 0).sum := by
  let weight : WindowKey → Tally → Int := fun key t =>
    if key.1 == group && key.2.1 == dimension then t.counts.get counter else 0
  let amount : Occurrence → Int := fun o =>
    if o.1 == group && o.2.dimension == dimension then o.2.counts.get counter else 0
  have nothing : ∀ key, weight key .zero = 0 := by simp [weight, Tally.zero]
  have adds : ∀ (t : Tally) (o : Occurrence),
      weight o.key (t.meet o.2) = weight o.key t + amount o := by
    intro t o
    simp only [weight, amount, Occurrence.key, Tally.meet, Counts.get_add]
    split <;> simp
  have replayed := Ledger.total_replay weight amount nothing adds os .empty
  rw [Ledger.total_empty, Int.zero_add] at replayed
  rw [← replayed]
  exact Entry.sum_filter (fun (_ : WindowKey) (t : Tally) => t.counts.get counter)
    (fun key => key.1 == group && key.2.1 == dimension) (tally os).entries

def listedUnder (group : MetricGroup) (snapshots : List Snapshot) : List EntityCounts :=
  snapshots.flatMap fun s => s.groups.flatMap fun listed =>
    if listed.1 = group then listed.2.entities else []

theorem mem_listedUnder {group : MetricGroup} {snapshots : List Snapshot} {e : EntityCounts} :
    e ∈ listedUnder group snapshots ↔
      ∃ s ∈ snapshots, ∃ snapshot, (group, snapshot) ∈ s.groups ∧ e ∈ snapshot.entities := by
  simp only [listedUnder, List.mem_flatMap]
  constructor
  · intro known
    rcases known with ⟨s, inWindow, ⟨listed, snapshot⟩, inDay, member⟩
    split at member
    · rename_i same
      exact ⟨s, inWindow, snapshot, same ▸ inDay, member⟩
    · cases member
  · intro known
    rcases known with ⟨s, inWindow, snapshot, inDay, member⟩
    exact ⟨s, inWindow, (group, snapshot), inDay, by simpa using member⟩

theorem occurrences_under (snapshots : List Snapshot) (group : MetricGroup)
    (keep : EntityCounts → Bool) :
    ((occurrences snapshots).filter fun o => o.1 == group && keep o.2).map Prod.snd =
      (listedUnder group snapshots).filter keep := by
  simp only [occurrences, listedUnder, List.filter_flatMap, List.map_flatMap]
  congr 1
  funext s
  congr 1
  funext ⟨listed, snapshot⟩
  cases same : listed == group with
  | true =>
    obtain rfl := eq_of_beq same
    simp [List.filter_map, Function.comp_def]
  | false =>
    have differ : listed ≠ group := by simpa using same
    simp [List.filter_map, Function.comp_def, differ]

def listedAs (key : WindowKey) (snapshots : List Snapshot) : List EntityCounts :=
  (listedUnder key.1 snapshots).filter fun e => e.dimension == key.2.1 && e.name == key.2.2

theorem occurrences_as (key : WindowKey) (snapshots : List Snapshot) :
    ((occurrences snapshots).filter fun o => o.key == key).map Prod.snd =
      listedAs key snapshots := by
  rw [listedAs, ← occurrences_under]
  congr 1

end UsageMetrics.Window
