import Mathlib.Data.List.Forall2
import UsageMetrics.Proofs.Daily.Isolation
import UsageMetrics.Proofs.Ledger.Commute
import UsageMetrics.Proofs.Window.Rates

namespace UsageMetrics.Daily

open UsageMetrics.Metric

/-- The columns of a row that belong to one group; the chats of both kinds together belong to
none. -/
def Figures.columns (f : Figures) : MetricGroup → List Int
  | .codeCompletions =>
    [f.completionUsers, f.suggestions, f.acceptances, f.linesSuggested, f.linesAccepted,
      f.acceptanceRate, f.linesAcceptanceRate]
  | .ideChat => [f.ideChatUsers, f.ideChats, f.copyEvents, f.insertionEvents]
  | .dotcomChat => [f.dotcomChatUsers, f.dotcomChats]
  | .pullRequests => [f.prSummaryUsers, f.prSummaries]

structure Figures.AgreesBeside (group : MetricGroup) (f g : Figures) : Prop where
  day : f.day = g.day
  activeUsers : f.activeUsers = g.activeUsers
  engagedUsers : f.engagedUsers = g.engagedUsers
  columns : ∀ other, other ≠ group → f.columns other = g.columns other
  chats : group ≠ .ideChat → group ≠ .dotcomChat → f.chats = g.chats

theorem figures_agreesBeside {group : MetricGroup} {s t : Snapshot}
    (beside : s.AgreesBeside group t) : s.figures.AgreesBeside group t.figures where
  day := beside.day
  activeUsers := beside.activeUsers
  engagedUsers := beside.engagedUsers
  columns other differ := by
    have listed := beside.listed other differ
    cases other <;> simp only [Figures.columns, Snapshot.figures, Figures.ofGroups, listed]
  chats ide dotcom := by
    have listed := beside.listed .ideChat ide.symm
    have listed' := beside.listed .dotcomChat dotcom.symm
    simp only [Snapshot.figures, Figures.ofGroups, listed, listed']

theorem users_agreesBeside {group : MetricGroup} {s t : Snapshot} (beside : s.AgreesBeside group t)
    {count : UserCount} (differ : count ≠ .engagedIn group) : s.users count = t.users count := by
  cases count with
  | active => exact beside.activeUsers
  | engaged => exact beside.engagedUsers
  | engagedIn other =>
    have differ : other ≠ group := fun same => differ (congrArg _ same)
    simp only [Snapshot.users, beside.listed other differ]

end UsageMetrics.Daily

namespace UsageMetrics.Window

open UsageMetrics.Calendar UsageMetrics.Daily UsageMetrics.Feed UsageMetrics.Metric

section Alike

variable {α β γ : Type} {related : α → β → Prop} {as : List α} {bs : List β}

theorem map_eq_of_forall₂ (alike : List.Forall₂ related as bs) {f : α → γ} {g : β → γ}
    (same : ∀ a b, related a b → f a = g b) : as.map f = bs.map g := by
  rw [← List.forall₂_eq_eq_eq, List.forall₂_map_left_iff, List.forall₂_map_right_iff]
  exact alike.imp same

theorem forall₂_mergeSort (alike : List.Forall₂ related as bs) {before : α → α → Bool}
    {before' : β → β → Bool}
    (same : ∀ a b a' b', related a b → related a' b' → before a a' = before' b b') :
    List.Forall₂ related (as.mergeSort before) (bs.mergeSort before') := by
  -- Both lists are the sides of one list of pairs, which is sorted like either of them.
  let sorted := (as.zip bs).mergeSort fun p q => before p.1 q.1
  have pairs : ∀ pair ∈ as.zip bs, related pair.1 pair.2 := fun _ member =>
    List.forall₂_zip alike member
  have left : sorted.map Prod.fst = as.mergeSort before := by
    rw [List.map_mergeSort (s := before) fun _ _ _ _ => rfl, List.map_fst_zip alike.length_eq.le]
  have right : sorted.map Prod.snd = bs.mergeSort before' := by
    rw [List.map_mergeSort fun p inPairs q inPairs' =>
      same p.1 p.2 q.1 q.2 (pairs p inPairs) (pairs q inPairs'),
      List.map_snd_zip alike.length_eq.ge]
  rw [← left, ← right, List.forall₂_map_left_iff, List.forall₂_map_right_iff, List.forall₂_same]
  exact fun pair member => pairs pair (List.mem_mergeSort.mp member)

theorem filter_congr_finer {coarse fine : α → Bool} {as others : List α}
    (same : as.filter coarse = others.filter coarse)
    (finer : ∀ a, fine a = true → coarse a = true) : as.filter fine = others.filter fine := by
  have again (as : List α) : as.filter fine = (as.filter coarse).filter fine := by
    rw [List.filter_filter]
    refine List.filter_congr fun a _ => ?_
    cases kept : fine a with
    | false => rfl
    | true => rw [finer a kept]; rfl
  rw [again as, again others, same]

end Alike

theorem occurrences_filter (snapshots : List Snapshot) (group : MetricGroup) :
    ((occurrences snapshots).filter fun o => o.1 == group) =
      (listedUnder group snapshots).map fun e => (group, e) := by
  have under := occurrences_under snapshots group fun _ => true
  simp only [Bool.and_true, List.filter_true] at under
  rw [← under, List.map_map]
  refine (List.map_id _).symm.trans (List.map_congr_left fun o member => ?_)
  have same : o.1 = group := eq_of_beq (List.mem_filter.mp member).2
  exact Prod.ext same rfl

def Aggregate.columns (a : Aggregate) : MetricGroup → List Int
  | .codeCompletions =>
    [a.groupEngagedUsers.codeCompletions, a.suggestions, a.acceptances, a.linesSuggested,
      a.linesAccepted, a.acceptanceRate, a.linesAcceptanceRate]
  | .ideChat => [a.groupEngagedUsers.ideChat, a.ideChats, a.copyEvents, a.insertionEvents]
  | .dotcomChat => [a.groupEngagedUsers.dotcomChat, a.dotcomChats]
  | .pullRequests => [a.groupEngagedUsers.pullRequests, a.prSummaries]

structure Aggregate.AgreesBeside (group : MetricGroup) (a b : Aggregate) : Prop where
  dayCount : a.dayCount = b.dayCount
  activeUsers : a.activeUsers = b.activeUsers
  engagedUsers : a.engagedUsers = b.engagedUsers
  columns : ∀ other, other ≠ group → a.columns other = b.columns other
  chats : group ≠ .ideChat → group ≠ .dotcomChat → a.chats = b.chats
  entities : ∀ other, other ≠ group → a.entities.get? other = b.entities.get? other

theorem newer_agrees {group : MetricGroup} {best best' s s' : Snapshot}
    (agrees : best.AgreesBeside group best') (next : s.AgreesBeside group s') :
    (newer best s).AgreesBeside group (newer best' s') := by
  rw [newer, newer, agrees.day, next.day]
  split
  · exact next
  · exact agrees

section Windows

variable {group : MetricGroup} {snapshots others : List Snapshot}
  (beside : List.Forall₂ (Snapshot.AgreesBeside group) snapshots others)

include beside

theorem days_agree : snapshots.map Snapshot.day = others.map Snapshot.day :=
  map_eq_of_forall₂ beside fun _ _ agrees => agrees.day

theorem observations_agree (count : UserCount) (differ : count ≠ .engagedIn group) :
    observations count snapshots = observations count others :=
  map_eq_of_forall₂ beside fun _ _ agrees => by
    rw [agrees.day, users_agreesBeside agrees differ]

theorem dateRange_agrees (pattern : Value) :
    dateRange pattern snapshots = dateRange pattern others := by
  simp only [dateRange, days_agree beside]

theorem latest?_agrees {s t : Snapshot} (latest : latest? snapshots = some s)
    (latest' : latest? others = some t) : s.AgreesBeside group t := by
  cases beside with
  | nil => cases latest
  | @cons first first' rest rest' agrees beside =>
    obtain rfl := Option.some.inj latest
    obtain rfl := Option.some.inj latest'
    clear latest latest'
    induction beside generalizing first first' with
    | nil => exact agrees
    | cons next rest ih => exact ih (newer_agrees agrees next)

theorem series_agree : List.Forall₂ (Figures.AgreesBeside group)
    ((snapshots.map Snapshot.figures).mergeSort dayBefore)
    ((others.map Snapshot.figures).mergeSort dayBefore) := by
  refine forall₂_mergeSort ?_ fun f g f' g' first second => ?_
  · rw [List.forall₂_map_left_iff, List.forall₂_map_right_iff]
    exact beside.imp fun _ _ agrees => figures_agreesBeside agrees
  · simp only [dayBefore, first.day, second.day]

variable (complete : ∀ s ∈ snapshots, s.Complete) (complete' : ∀ s ∈ others, s.Complete)

include complete complete'

theorem listedUnder_agrees {other : MetricGroup} (differ : other ≠ group) :
    listedUnder other snapshots = listedUnder other others := by
  induction beside with
  | nil => rfl
  | cons agrees rest ih =>
    obtain ⟨first, tail⟩ := List.forall_mem_cons.mp complete
    obtain ⟨first', tail'⟩ := List.forall_mem_cons.mp complete'
    rw [listedUnder_cons other first, listedUnder_cons other first', agrees.listed other differ,
      ih tail tail']

/-- Occurrences of one key are all of one group, so those of another group never meet its tally. -/
theorem get?_tally_agrees (key : WindowKey) (differ : key.1 ≠ group) :
    (tally (occurrences snapshots)).get? key = (tally (occurrences others)).get? key := by
  have inGroup : ((occurrences snapshots).filter fun o => o.1 == key.1) =
      (occurrences others).filter fun o => o.1 == key.1 := by
    rw [occurrences_filter, occurrences_filter,
      listedUnder_agrees beside complete complete' differ]
  refine Ledger.get?_replay_congr Occurrence.key Tally.zero
    (fun (t : Tally) (o : Occurrence) => t.meet o.2) ?_ .empty
  refine filter_congr_finer inGroup fun o here => ?_
  rw [← eq_of_beq here]
  exact beq_self_eq_true o.1

theorem entities_agree (statistic : Statistic) {other : MetricGroup} (differ : other ≠ group) :
    (aggregateDays statistic snapshots).entities.get? other =
      (aggregateDays statistic others).entities.get? other := by
  have tallies := Ledger.filter_entries_congr (fun key : WindowKey => key.1 == other)
    fun key here => get?_tally_agrees beside complete complete' key (eq_of_beq here ▸ differ)
  refine Ledger.get?_replay_congr Entity.group Ledger.empty
    (fun (dimensions : Ledger Dimension (Ledger String Entity)) (e : Entity) =>
      dimensions.upsert e.dimension fun names? => (names?.getD .empty).upsert e.name fun _ => e)
    ?_ .empty
  rw [List.filter_map, List.filter_map]
  exact congrArg (List.map _) tallies

theorem groupTotals_agree {other : MetricGroup} (differ : other ≠ group) :
    groupTotals (tally (occurrences snapshots)) other =
      groupTotals (tally (occurrences others)) other := by
  have tallies := Ledger.filter_entries_congr
    (fun key : WindowKey => key.1 = other && key.2.1 = other.primary)
    fun key here => get?_tally_agrees beside complete complete' key <| by
      simp only [Bool.and_eq_true, decide_eq_true_eq] at here
      exact here.1 ▸ differ
  simp only [groupTotals, tallies]

theorem aggregateDays_agreesBeside (statistic : Statistic) :
    (aggregateDays statistic snapshots).AgreesBeside group (aggregateDays statistic others) where
  dayCount := by simp only [aggregateDays, distinctDays, days_agree beside]
  activeUsers := congrArg (UserCounter.total statistic) (observations_agree beside .active nofun)
  engagedUsers := congrArg (UserCounter.total statistic) (observations_agree beside .engaged nofun)
  columns other differ := by
    have users : groupObservations other snapshots = groupObservations other others := by
      rw [groupObservations_eq other complete, groupObservations_eq other complete']
      exact observations_agree beside _ fun same => differ (UserCount.engagedIn.inj same)
    have totals := groupTotals_agree beside complete complete' differ
    cases other <;> simp only [Aggregate.columns, aggregateDays, PerGroup.ofFn, users, totals]
  chats ide dotcom := by
    have first := groupTotals_agree beside complete complete' ide.symm
    have second := groupTotals_agree beside complete complete' dotcom.symm
    simp only [aggregateDays, first, second]
  entities other differ := entities_agree beside complete complete' statistic differ

end Windows

def Summary.rankings (s : Summary) : MetricGroup → List (List RankedEntity)
  | .codeCompletions => [s.topLanguages, s.editorStats]
  | .ideChat => [s.chatEditorStats]
  | .dotcomChat => []
  | .pullRequests => [s.pullRequestSummary.repositories]

def Summary.columns (s : Summary) (group : MetricGroup) : List Int :=
  let own := match group with
    | .codeCompletions => []
    | .ideChat =>
      [s.chatStats.ideChats, s.chatStats.copyEvents, s.chatStats.insertionEvents,
        s.chatStats.ideUsers]
    | .dotcomChat => [s.chatStats.dotcomChats, s.chatStats.dotcomUsers]
    | .pullRequests =>
      [s.pullRequestSummary.engagedUsers, s.pullRequestSummary.summaries,
        s.pullRequestSummary.repositoryCount]
  own ++ [s.featureAdoption.users.get group, s.featureAdoption.rates.get group]

structure Summary.AgreesBeside (group : MetricGroup) (s t : Summary) : Prop where
  aggregate : s.aggregate.AgreesBeside group t.aggregate
  dateRange : s.dateRange = t.dateRange
  latestDay : s.latestDay.AgreesBeside group t.latestDay
  dailySeries : List.Forall₂ (Figures.AgreesBeside group) s.dailySeries t.dailySeries
  rankings : ∀ other, other ≠ group → s.rankings other = t.rankings other
  modelUsage : (s.modelUsage.filter fun row => row.group ≠ group) =
    t.modelUsage.filter fun row => row.group ≠ group
  activeUsers : s.featureAdoption.activeUsers = t.featureAdoption.activeUsers
  columns : ∀ other, other ≠ group → s.columns other = t.columns other
  chats : group ≠ .ideChat → group ≠ .dotcomChat → s.chatStats.chats = t.chatStats.chats

section Views

variable {group : MetricGroup} {a b : Aggregate} (beside : a.AgreesBeside group b)

include beside

theorem slice_agrees {other : MetricGroup} (differ : other ≠ group) (dimension : Dimension) :
    a.slice other dimension = b.slice other dimension := by
  simp only [Aggregate.slice, EntityMap.slice, beside.entities other differ]

theorem groupUsers_agree {other : MetricGroup} (differ : other ≠ group) :
    a.groupEngagedUsers.get other = b.groupEngagedUsers.get other := by
  have columns := beside.columns other differ
  cases other <;> exact (List.cons.inj columns).1

/-- Models of other groups keep their rows as long as those of the group say that they are its
own. -/
theorem modelUsage_agrees (own : ∀ e ∈ a.slice group .model, e.group = group)
    (own' : ∀ e ∈ b.slice group .model, e.group = group) (top : Option Nat) :
    ((a.modelUsage top).filter fun row => row.group ≠ group) =
      (b.modelUsage top).filter fun row => row.group ≠ group := by
  have hidden {entities : List Entity} (own : ∀ e ∈ entities, e.group = group) :
      ((rank entities top).filter fun row => row.group ≠ group) = [] := by
    refine List.filter_eq_nil_iff.mpr fun row member => ?_
    obtain ⟨e, inSlice, place, rfl⟩ := mem_rank member
    simp [RankedEntity.ofEntity, own e inSlice]
  simp only [Aggregate.modelUsage, List.filter_flatMap]
  congr 1
  funext other
  by_cases same : other = group
  · rw [same, hidden own, hidden own']
  · rw [slice_agrees beside same]

theorem summarizeDays_agreesBeside (top : Option Nat) {range : DateRange} {latest latest' : Figures}
    {rows rows' : List Figures} (own : ∀ e ∈ a.slice group .model, e.group = group)
    (own' : ∀ e ∈ b.slice group .model, e.group = group)
    (latestDay : latest.AgreesBeside group latest')
    (dailySeries : List.Forall₂ (Figures.AgreesBeside group) rows rows') (report report' : Report) :
    (summarizeDays top ⟨a, range, latest, rows⟩ report).AgreesBeside group
      (summarizeDays top ⟨b, range, latest', rows'⟩ report') where
  aggregate := beside
  dateRange := rfl
  latestDay := latestDay
  dailySeries := dailySeries
  rankings other differ := by
    have slice := slice_agrees beside differ
    cases other <;> simp only [Summary.rankings, summarizeDays, Aggregate.topLanguages,
      Aggregate.editorStats, Aggregate.chatEditorStats, Aggregate.pullRequestSummary,
      Aggregate.repositoryStats, slice]
  modelUsage := modelUsage_agrees beside own own' none
  activeUsers := beside.activeUsers
  columns other differ := by
    have slice := slice_agrees beside differ
    have users := groupUsers_agree beside differ
    have columns := beside.columns other differ
    cases other <;> simp only [Aggregate.columns, List.cons.injEq, and_true] at columns <;>
      simp only [Summary.columns, summarizeDays, Aggregate.chatStats, Aggregate.featureAdoption,
        Aggregate.pullRequestSummary, PerGroup.get_ofFn, users, beside.activeUsers, slice, columns]
  chats := beside.chats

end Views

theorem group_of_mem_slice {statistic : Statistic} {snapshots : List Snapshot} {group : MetricGroup}
    {dimension : Dimension} :
    ∀ e ∈ (aggregateDays statistic snapshots).slice group dimension, e.group = group := by
  intro e member
  obtain ⟨name, holds⟩ := Aggregate.holds_of_mem_slice member
  exact (holds_aggregateDays holds).1

section Intake

variable {group : MetricGroup} {raws others : List Value}
  (beside : List.Forall₂ (Value.AgreesBeside (recordKey group)) raws others)
  (accepted : ∀ raw ∈ raws, (Daily.normalize raw).isOk)
  (accepted' : ∀ raw ∈ others, (Daily.normalize raw).isOk)

include beside accepted accepted'

theorem snapshots_agree : List.Forall₂ (Snapshot.AgreesBeside group) (normalizeAll raws).1
    (normalizeAll others).1 := by
  induction beside with
  | nil => exact .nil
  | cons agrees rest ih =>
    obtain ⟨first, tail⟩ := List.forall_mem_cons.mp accepted
    obtain ⟨first', tail'⟩ := List.forall_mem_cons.mp accepted'
    obtain ⟨made, normalized⟩ := exists_ok first
    obtain ⟨made', normalized'⟩ := exists_ok first'
    rw [snapshots_cons normalized, snapshots_cons normalized']
    exact .cons (normalize_agreesBeside agrees normalized normalized') (ih tail tail')

/-- Whatever a group holds and however its entries are named, nothing that belongs to another group
or to the whole window shows it. -/
theorem usageSummary_isolated {settings : Settings} (plain : settings.Plain)
    (nonempty : raws ≠ []) :
    ∃ s t, usageSummary settings (.list raws) = .ok (.found s) ∧
      usageSummary settings (.list others) = .ok (.found t) ∧ s.AgreesBeside group t := by
  have nonempty' : others ≠ [] := by
    rintro rfl
    exact nonempty (List.forall₂_nil_right_iff.mp beside)
  have days := snapshots_agree beside accepted accepted'
  have complete := snapshots_complete raws
  have complete' := snapshots_complete others
  obtain ⟨top, limit⟩ := plain.readLimit_ok
  obtain ⟨range, s, dated, latest, found⟩ :=
    days?_found plain complete (snapshots_ne_nil (exists_accepted accepted nonempty))
  obtain ⟨range', t, dated', latest', found'⟩ :=
    days?_found plain complete' (snapshots_ne_nil (exists_accepted accepted' nonempty'))
  obtain rfl : range = range' := by
    rw [dateRange_agrees days] at dated
    simpa using dated.symm.trans dated'
  refine ⟨_, _, usageSummary_of_days limit found, usageSummary_of_days limit found', ?_⟩
  exact summarizeDays_agreesBeside
    (aggregateDays_agreesBeside days complete complete' settings.statistic) top
    group_of_mem_slice group_of_mem_slice
    (figures_agreesBeside (latest?_agrees days latest latest')) (series_agree days) _ _

end Intake

def sameNames (chat : Int → Value) : List Value :=
  let entry (fields : List (String × Value)) : Value := .object
    ([("name", .text "default"), ("total_engaged_users", .integer 2)] ++ fields)
  let model (custom : Bool) (fields : List (String × Value)) : Value :=
    entry ([("is_custom_model", .bool custom)] ++ fields)
  let record (date : String) (n : Int) : Value := .object
    ([("date", .text date), ("total_active_users", .integer 9),
      ("copilot_ide_code_completions", .object [("editors", .list [entry [("models", .list
        [model true [("languages", .list [entry [("total_code_suggestions", .integer n),
          ("total_code_acceptances", .integer 3)]])]])]])])] ++
      ("copilot_ide_chat", chat n) ::
      [("copilot_dotcom_chat", .object
        [("models", .list [model false [("total_chats", .integer n)]])]),
      ("copilot_dotcom_pull_requests", .object [("repositories", .list [entry [("models", .list
        [model false [("total_pr_summaries_created", .integer 1)]])]])])])
  [record "2025-05-02" 4, record "2025-05-01" 7]

def sameNamedChat (n : Int) : Value := .object
  [("total_engaged_users", .integer n), ("editors", .list [.object
    [("name", .text "default"), ("models", .list [.object [("name", .text "default"),
      ("is_custom_model", .bool true), ("total_chats", .integer (5 * n))]])]])]

theorem sameNames_isolated :
    List.Forall₂ (Value.AgreesBeside (recordKey .ideChat)) (sameNames fun _ => .null)
        (sameNames sameNamedChat) ∧
      ∃ s t, usageSummary .default (.list (sameNames fun _ => .null)) = .ok (.found s) ∧
        usageSummary .default (.list (sameNames sameNamedChat)) = .ok (.found t) ∧
        s.AgreesBeside .ideChat t := by
  have beside : List.Forall₂ (Value.AgreesBeside (recordKey .ideChat))
      (sameNames fun _ => .null) (sameNames sameNamedChat) :=
    .cons (.replaced _ _ _ _ _) (.cons (.replaced _ _ _ _ _) .nil)
  have accepted : ∀ raw ∈ sameNames fun _ => .null, (Daily.normalize raw).isOk := by decide
  have accepted' : ∀ raw ∈ sameNames sameNamedChat, (Daily.normalize raw).isOk := by decide
  exact ⟨beside,
    usageSummary_isolated beside accepted accepted' (Settings.default_plain .max) nofun⟩

end UsageMetrics.Window
