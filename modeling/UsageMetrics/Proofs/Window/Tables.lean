import UsageMetrics.Proofs.Window.Isolation
import UsageMetrics.Proofs.Window.WeightedMean

namespace UsageMetrics.Window

open UsageMetrics.Calendar UsageMetrics.Daily UsageMetrics.Feed UsageMetrics.Metric

structure RankedEntity.Shows (row : RankedEntity) (e : Entity) : Prop where
  group : row.group = e.group
  dimension : row.dimension = e.dimension
  name : row.name = e.name
  counts : row.counts = e.counts
  isCustom : row.isCustom = e.isCustom
  acceptanceRate : row.acceptanceRate = e.acceptanceRate

namespace Aggregate

structure Ranks (a : Aggregate) (group : MetricGroup) (dimension : Dimension)
    (rows : List RankedEntity) : Prop where
  places : ∀ i row, rows[i]? = some row → row.rank = i + 1
  distinct : (rows.map RankedEntity.name).Nodup
  placed : ∀ row ∈ rows, row.group = group ∧ row.dimension = dimension
  shown : ∀ row ∈ rows, ∃ e, a.entities.Holds group dimension row.name e ∧ row.Shows e

structure Tabulates (a : Aggregate) (group : MetricGroup) (dimension : Dimension)
    (rows : List RankedEntity) : Prop where
  ranks : a.Ranks group dimension rows
  complete : ∀ name e, a.entities.Holds group dimension name e → ∃ row ∈ rows, row.name = name

def Numbers (a : Aggregate) (group : MetricGroup) (dimension : Dimension) (n : Nat) : Prop :=
  ∃ names : List String, names.Nodup ∧ names.length = n ∧
    ∀ name, name ∈ names ↔ ∃ e, a.entities.Holds group dimension name e

end Aggregate

section Rows

variable {entities : List Entity} {top : Option Nat}

theorem ordered_perm (entities : List Entity) : (ordered entities).Perm entities :=
  List.mergeSort_perm entities rankedBefore

theorem keep_sublist : (keep top entities).Sublist entities := by
  cases top with
  | none => exact .refl _
  | some n => exact List.take_sublist n _

theorem rank_column {β : Type} {column : RankedEntity → β} {shown : Entity → β}
    (same : ∀ place e, column (.ofEntity place e) = shown e) :
    (rank entities top).map column = (keep top (ordered entities)).map shown := by
  have places := List.zipIdx_map_fst 0 (keep top (ordered entities))
  calc
    (rank entities top).map column =
        (keep top (ordered entities)).zipIdx.map fun entry => shown entry.1 := by
      rw [rank, numbered, List.map_map]
      exact List.map_congr_left fun entry _ => same (entry.2 + 1) entry.1
    _ = ((keep top (ordered entities)).zipIdx.map Prod.fst).map shown := by
      rw [List.map_map]
      rfl
    _ = (keep top (ordered entities)).map shown := by rw [places]

theorem rank_names :
    (rank entities top).map RankedEntity.name = (keep top (ordered entities)).map Entity.name :=
  rank_column fun _ _ => rfl

theorem rank_place {i : Nat} {row : RankedEntity} (found : (rank entities top)[i]? = some row) :
    row.rank = i + 1 := by
  rw [rank, numbered, List.getElem?_map, List.getElem?_zipIdx, Option.map_map] at found
  obtain ⟨e, -, rfl⟩ := Option.map_eq_some_iff.mp found
  simp [RankedEntity.ofEntity]

theorem length_rank (n : Nat) : (rank entities (some n)).length = min n entities.length := by
  rw [rank, numbered, List.length_map, List.length_zipIdx, keep, List.length_take,
    (ordered_perm entities).length_eq]

theorem exists_row {e : Entity} (listed : e ∈ keep top (ordered entities)) :
    ∃ row ∈ rank entities top, row.name = e.name := by
  have named : e.name ∈ (rank entities top).map RankedEntity.name := by
    rw [rank_names]
    exact List.mem_map_of_mem listed
  exact List.mem_map.mp named

theorem sum_rank {column : RankedEntity → Int} {shown : Entity → Int}
    (same : ∀ place e, column (.ofEntity place e) = shown e) :
    ((rank entities none).map column).sum = (entities.map shown).sum := by
  rw [rank_column same]
  exact ((ordered_perm entities).map shown).sum_eq

end Rows

section Slices

variable {statistic : Statistic} {snapshots : List Snapshot} {group : MetricGroup}
  {dimension : Dimension}

theorem mem_slice_iff {e : Entity} :
    e ∈ (aggregateDays statistic snapshots).slice group dimension ↔
      (aggregateDays statistic snapshots).entities.Holds group dimension e.name e := by
  constructor
  · intro member
    obtain ⟨name, holds⟩ := Aggregate.holds_of_mem_slice member
    rwa [(holds_aggregateDays holds).2.2]
  · intro holds
    have entry := Ledger.mem_entries_iff.mpr (EntityMap.holds_iff.mp holds)
    exact List.mem_map.mpr ⟨(e.name, e), entry, rfl⟩

theorem slice_names : ((aggregateDays statistic snapshots).slice group dimension).map Entity.name =
    ((aggregateDays statistic snapshots).entities.slice group dimension).keys := by
  rw [Aggregate.slice, Ledger.values, Ledger.keys, List.map_map]
  refine List.map_congr_left fun entry member => ?_
  have holds := EntityMap.holds_iff.mpr (Ledger.mem_entries_iff.mp member)
  exact (holds_aggregateDays holds).2.2

theorem slice_names_nodup :
    (((aggregateDays statistic snapshots).slice group dimension).map Entity.name).Nodup := by
  rw [slice_names]
  exact Ledger.keys_nodup _

theorem ordered_names_nodup :
    ((ordered ((aggregateDays statistic snapshots).slice group dimension)).map
      Entity.name).Nodup :=
  ((ordered_perm _).map Entity.name).nodup_iff.mpr slice_names_nodup

theorem numbers_slice : (aggregateDays statistic snapshots).Numbers group dimension
    ((aggregateDays statistic snapshots).slice group dimension).length := by
  refine ⟨_, slice_names_nodup, List.length_map _, fun name => ?_⟩
  rw [List.mem_map]
  constructor
  · rintro ⟨e, member, rfl⟩
    exact ⟨e, mem_slice_iff.mp member⟩
  · rintro ⟨e, holds⟩
    obtain ⟨-, -, rfl⟩ := holds_aggregateDays holds
    exact ⟨e, mem_slice_iff.mpr holds, rfl⟩

theorem ranks_slice (top : Option Nat) : (aggregateDays statistic snapshots).Ranks group dimension
    (rank ((aggregateDays statistic snapshots).slice group dimension) top) where
  places _ _ found := rank_place found
  distinct := by
    rw [rank_names]
    exact ordered_names_nodup.sublist (keep_sublist.map Entity.name)
  placed row member := by
    obtain ⟨e, inSlice, place, rfl⟩ := mem_rank member
    obtain ⟨own, sliced, -⟩ := holds_aggregateDays (mem_slice_iff.mp inSlice)
    exact ⟨own, sliced⟩
  shown row member := by
    obtain ⟨e, inSlice, place, rfl⟩ := mem_rank member
    exact ⟨e, mem_slice_iff.mp inSlice, rfl, rfl, rfl, rfl, rfl, rfl⟩

theorem tabulates_slice : (aggregateDays statistic snapshots).Tabulates group dimension
    (rank ((aggregateDays statistic snapshots).slice group dimension) none) where
  ranks := ranks_slice none
  complete name e holds := by
    obtain ⟨-, -, rfl⟩ := holds_aggregateDays holds
    exact exists_row ((ordered_perm _).mem_iff.mpr (mem_slice_iff.mpr holds))

end Slices

theorem forall_mem_drop_iff {entities : List Entity} {holds : Entity → Prop} (n : Nat)
    (names : (entities.map Entity.name).Nodup) : (∀ e ∈ entities.drop n, holds e) ↔
      ∀ e ∈ entities, e.name ∉ (entities.take n).map Entity.name → holds e := by
  rw [← List.take_append_drop n entities, List.map_append, List.nodup_append] at names
  obtain ⟨-, -, apart⟩ := names
  constructor
  · intro each e member unnamed
    rw [← List.take_append_drop n entities, List.mem_append] at member
    cases member with
    | inl taken => exact absurd (List.mem_map_of_mem taken) unnamed
    | inr left => exact each e left
  · intro each e left
    refine each e (List.mem_of_mem_drop left) fun named => ?_
    exact apart _ named _ (List.mem_map_of_mem left) rfl

/-- What a table reports of its entities falls short of the whole by what those that it leaves out
add. -/
theorem sum_keep {entities : List Entity} {shown : Entity → Int} (n : Nat)
    (nonneg : ∀ e ∈ entities, 0 ≤ shown e) (names : (entities.map Entity.name).Nodup) :
    ((entities.take n).map shown).sum ≤ (entities.map shown).sum ∧
      (((entities.take n).map shown).sum = (entities.map shown).sum ↔
        ∀ e ∈ entities, e.name ∉ (entities.take n).map Entity.name → shown e = 0) := by
  have parts : (entities.map shown).sum =
      ((entities.take n).map shown).sum + ((entities.drop n).map shown).sum := by
    rw [← List.sum_append, ← List.map_append, List.take_append_drop]
  have left : ∀ count ∈ (entities.drop n).map shown, 0 ≤ count := by
    intro count member
    obtain ⟨e, dropped, rfl⟩ := List.mem_map.mp member
    exact nonneg e (List.mem_of_mem_drop dropped)
  -- Counts that are not negative add up to nothing only if each of them is nothing.
  have nothing : ((entities.drop n).map shown).sum = 0 ↔ ∀ e ∈ entities.drop n, shown e = 0 := by
    rw [← List.forall_mem_map (P := fun count => count = 0)]
    exact ⟨fun none _ member => List.all_zero_of_le_zero_le_of_sum_eq_zero left none member,
      List.sum_eq_zero⟩
  have total := List.sum_nonneg left
  rw [← forall_mem_drop_iff n names, ← nothing]
  constructor
  · omega
  · omega

def sumOf (counter : Counter) (rows : List RankedEntity) : Int :=
  (rows.map fun row => row.counts.get counter).sum

/-- The ranked lists of a summary against the entities and the totals of its window, with as many
languages kept as wished. -/
structure Summary.Tabulates (s : Summary) (top : Nat) : Prop where
  editorStats : s.aggregate.Tabulates .codeCompletions .editor s.editorStats
  chatEditorStats : s.aggregate.Tabulates .ideChat .editor s.chatEditorStats
  modelUsage : ∃ tables : MetricGroup → List RankedEntity,
    s.modelUsage = MetricGroup.all.flatMap tables ∧
      ∀ group, s.aggregate.Tabulates group .model (tables group)
  topLanguages : s.aggregate.Ranks .codeCompletions .language s.topLanguages
  languages : ∃ n, s.aggregate.Numbers .codeCompletions .language n ∧
    s.topLanguages.length = min top n
  ideChats : sumOf .chats s.chatEditorStats = s.aggregate.ideChats
  dotcomChats : sumOf .chats (s.modelUsage.filter fun row => row.group = .dotcomChat) =
    s.aggregate.dotcomChats
  repositories : s.aggregate.Ranks .pullRequests .repository s.pullRequestSummary.repositories
  repositoryCount :
    s.aggregate.Numbers .pullRequests .repository s.pullRequestSummary.repositoryCount
  keptRepositories : s.pullRequestSummary.repositories.length =
    min 10 s.pullRequestSummary.repositoryCount
  summaries : sumOf .prSummaries s.pullRequestSummary.repositories ≤ s.aggregate.prSummaries
  allSummaries : s.pullRequestSummary.repositoryCount ≤ 10 →
    sumOf .prSummaries s.pullRequestSummary.repositories = s.aggregate.prSummaries
  missedSummaries :
    sumOf .prSummaries s.pullRequestSummary.repositories = s.aggregate.prSummaries ↔
      ∀ name e, s.aggregate.entities.Holds .pullRequests .repository name e →
        name ∉ s.pullRequestSummary.repositories.map RankedEntity.name →
          e.counts.get .prSummaries = 0

section Window

variable {statistic : Statistic} {snapshots : List Snapshot}

theorem sumOf_slice {group : MetricGroup} {event : Counter × Int}
    (member : event ∈ (aggregateDays statistic snapshots).eventTotals group) :
    sumOf event.1 (rank ((aggregateDays statistic snapshots).slice group group.primary) none) =
      event.2 := by
  rw [Aggregate.eventTotals_primary statistic snapshots group member]
  exact sum_rank fun _ _ => rfl

theorem modelUsage_under (group : MetricGroup) :
    ((aggregateDays statistic snapshots).modelUsage none).filter (fun row => row.group = group) =
      rank ((aggregateDays statistic snapshots).slice group .model) none := by
  have part (other : MetricGroup) :
      (rank ((aggregateDays statistic snapshots).slice other .model) none).filter
          (fun row => row.group = group) =
        if other = group then rank ((aggregateDays statistic snapshots).slice other .model) none
        else [] := by
    have ranks : (aggregateDays statistic snapshots).Ranks other .model _ := ranks_slice none
    split
    · rename_i same
      refine List.filter_eq_self.mpr fun row member => ?_
      simp [(ranks.placed row member).1, same]
    · rename_i differ
      refine List.filter_eq_nil_iff.mpr fun row member => ?_
      simp [(ranks.placed row member).1, differ]
  rw [Aggregate.modelUsage, List.filter_flatMap]
  simp only [part]
  cases group <;> simp [MetricGroup.all]

theorem events_nonneg {group : MetricGroup} {dimension : Dimension}
    (nonneg : ∀ e ∈ listedUnder group snapshots, e.counts.EventsNonneg) :
    ∀ e ∈ (aggregateDays statistic snapshots).slice group dimension, e.counts.EventsNonneg := by
  intro e member counter event
  obtain ⟨name, holds⟩ := Aggregate.holds_of_mem_slice member
  rw [(aggregateDays_sums statistic snapshots holds).counts counter]
  refine List.sum_nonneg fun count counted => ?_
  obtain ⟨o, listed, rfl⟩ := List.mem_map.mp counted
  exact nonneg o (List.mem_of_mem_filter listed) counter event

theorem prSummaries_ordered : (aggregateDays statistic snapshots).prSummaries =
    ((ordered ((aggregateDays statistic snapshots).slice .pullRequests .repository)).map
      fun e => e.counts.get .prSummaries).sum := by
  have total : (.prSummaries, (aggregateDays statistic snapshots).prSummaries) ∈
      (aggregateDays statistic snapshots).eventTotals .pullRequests := .head _
  calc
    _ = (aggregateDays statistic snapshots).sliceSum .pullRequests .repository .prSummaries :=
      Aggregate.eventTotals_primary statistic snapshots .pullRequests total
    _ = _ := ((ordered_perm _).map _).sum_eq.symm

theorem sumOf_repositoryStats (n : Nat) :
    sumOf .prSummaries ((aggregateDays statistic snapshots).repositoryStats (some n)) =
      (((ordered ((aggregateDays statistic snapshots).slice .pullRequests .repository)).take n).map
        fun e => e.counts.get .prSummaries).sum :=
  congrArg List.sum (rank_column fun _ _ => rfl)

theorem sumOf_repositoryStats_all {n : Nat}
    (few : ((aggregateDays statistic snapshots).slice .pullRequests .repository).length ≤ n) :
    sumOf .prSummaries ((aggregateDays statistic snapshots).repositoryStats (some n)) =
      (aggregateDays statistic snapshots).prSummaries := by
  rw [sumOf_repositoryStats, prSummaries_ordered,
    List.take_of_length_le ((ordered_perm _).length_eq.trans_le few)]

theorem sumOf_repositoryStats_le
    (nonneg : ∀ e ∈ listedUnder .pullRequests snapshots, e.counts.EventsNonneg) (n : Nat) :
    sumOf .prSummaries ((aggregateDays statistic snapshots).repositoryStats (some n)) ≤
        (aggregateDays statistic snapshots).prSummaries ∧
      (sumOf .prSummaries ((aggregateDays statistic snapshots).repositoryStats (some n)) =
          (aggregateDays statistic snapshots).prSummaries ↔
        ∀ name e, (aggregateDays statistic snapshots).entities.Holds .pullRequests .repository
            name e →
          name ∉ ((aggregateDays statistic snapshots).repositoryStats (some n)).map
              RankedEntity.name →
            e.counts.get .prSummaries = 0) := by
  have counted : ∀ e ∈ ordered ((aggregateDays statistic snapshots).slice .pullRequests
      .repository), 0 ≤ e.counts.get .prSummaries := fun e member =>
    events_nonneg nonneg e (List.mem_mergeSort.mp member) .prSummaries (by decide)
  obtain ⟨below, exactly⟩ := sum_keep n counted ordered_names_nodup
  rw [sumOf_repositoryStats, prSummaries_ordered, Aggregate.repositoryStats, rank_names]
  refine ⟨below, exactly.trans ⟨?_, ?_⟩⟩
  · intro zero name e holds unnamed
    obtain ⟨-, -, rfl⟩ := holds_aggregateDays holds
    exact zero e (List.mem_mergeSort.mpr (mem_slice_iff.mpr holds)) unnamed
  · intro zero e member unnamed
    exact zero e.name e (mem_slice_iff.mp (List.mem_mergeSort.mp member)) unnamed

theorem summarizeDays_tabulates
    (nonneg : ∀ e ∈ listedUnder .pullRequests snapshots, e.counts.EventsNonneg) (top : Nat)
    (range : DateRange) (latest : Figures) (rows : List Figures) (report : Report) :
    (summarizeDays (some top) ⟨aggregateDays statistic snapshots, range, latest, rows⟩
      report).Tabulates top := by
  have ideChats : (.chats, (aggregateDays statistic snapshots).ideChats) ∈
      (aggregateDays statistic snapshots).eventTotals .ideChat := .head _
  have dotcomChats : (.chats, (aggregateDays statistic snapshots).dotcomChats) ∈
      (aggregateDays statistic snapshots).eventTotals .dotcomChat := .head _
  obtain ⟨below, exactly⟩ := sumOf_repositoryStats_le nonneg 10
  exact {
    editorStats := tabulates_slice
    chatEditorStats := tabulates_slice
    modelUsage := ⟨_, rfl, fun _ => tabulates_slice⟩
    topLanguages := ranks_slice (some top)
    languages := ⟨_, numbers_slice, length_rank top⟩
    ideChats := sumOf_slice ideChats
    dotcomChats := (congrArg (sumOf .chats) (modelUsage_under .dotcomChat)).trans
      (sumOf_slice dotcomChats)
    repositories := ranks_slice (some 10)
    repositoryCount := numbers_slice
    keptRepositories := length_rank 10
    summaries := below
    allSummaries := sumOf_repositoryStats_all
    missedSummaries := exactly }

end Window

/-- The ranked lists lose and repeat nothing, however the entities of a window are named. -/
theorem usageSummary_tabulates {settings : Settings} (plain : settings.Plain) {raws : List Value}
    (accepted : ∃ raw ∈ raws, (Daily.normalize raw).isOk) :
    ∃ (top : Nat) (summary : Summary), settings.topN = .integer top ∧
      usageSummary settings (.list raws) = .ok (.found summary) ∧ summary.Tabulates top := by
  have complete := snapshots_complete raws
  obtain ⟨top, given⟩ := plain.topN
  have limit : readLimit settings.topN = .ok (some top) := by simp [given, readLimit]
  obtain ⟨range, s, -, -, found⟩ := days?_found plain complete (snapshots_ne_nil accepted)
  have nonneg : ∀ e ∈ listedUnder .pullRequests (normalizeAll raws).1,
      e.counts.EventsNonneg := by
    intro e listed
    obtain ⟨s, inWindow, snapshot, inDay, member⟩ := mem_listedUnder.mp listed
    obtain ⟨day, r, -, rfl⟩ := exists_normalizeOn inWindow
    exact normalizeOn_eventsNonneg day r _ inDay e member
  exact ⟨top, _, given, usageSummary_of_days limit found,
    summarizeDays_tabulates nonneg top range _ _ _⟩

def crowdedWindow : List Value :=
  let repository (n : Nat) : Value := .object
    [("name", .text (String.ofList (List.replicate n 'r'))), ("models", .list [.object
      [("name", .text "default"), ("total_pr_summaries_created", .integer 1)]])]
  let crowded : Value := .object
    [("date", .text "2025-05-03"), ("copilot_dotcom_pull_requests", .object
      [("repositories", .list ((List.range' 1 12).map repository))])]
  .null :: crowded :: sameNames sameNamedChat

theorem crowdedWindow_tabulates :
    (∃ raw ∈ crowdedWindow, (Daily.normalize raw).isOk) ∧
      ∃ (top : Nat) (summary : Summary), Settings.default.topN = .integer top ∧
        usageSummary .default (.list crowdedWindow) = .ok (.found summary) ∧
        summary.Tabulates top := by
  have accepted : ∃ raw ∈ crowdedWindow, (Daily.normalize raw).isOk :=
    ⟨_, .tail _ (.head _), by decide⟩
  exact ⟨accepted, usageSummary_tabulates (Settings.default_plain .max) accepted⟩

end UsageMetrics.Window
