import UsageMetrics.Proofs.Standing
import UsageMetrics.Proofs.Window.Tables

namespace UsageMetrics.Window

open UsageMetrics.Feed UsageMetrics.Metric

def Entity.standing (e : Entity) : Standing Int := ⟨e.counts.engagedUsers, e.name⟩

def RankedEntity.standing (row : RankedEntity) : Standing Int :=
  ⟨row.counts.engagedUsers, row.name⟩

theorem rankedBefore_decides : Standing.Decides Entity.standing rankedBefore := by
  intro a b
  rw [Standing.before_or_eq_iff]
  simp [rankedBefore, Entity.standing]

section Ordered

variable {entities others : List Entity} (names : (entities.map Entity.name).Nodup)

include names

theorem ordered_standings :
    (ordered entities).Pairwise fun a b => a.standing.Before b.standing := by
  have distinct : (ordered entities).Pairwise fun a b => a.name ≠ b.name :=
    List.pairwise_map.mp (((ordered_perm entities).map Entity.name).nodup_iff.mpr names)
  have sorted := List.pairwise_mergeSort rankedBefore_decides.trans rankedBefore_decides.total
    entities
  refine (distinct.and sorted).imp fun pair => ?_
  rcases (rankedBefore_decides _ _).mp pair.2 with before | same
  · exact before
  · exact absurd (congrArg Standing.name same) pair.1

/-- Entities that are named apart have one order only. -/
theorem ordered_congr (order : entities.Perm others) : ordered entities = ordered others :=
  mergeSort_perm rankedBefore_decides.trans rankedBefore_decides.total order
    fun _ first _ second before after => List.inj_on_of_nodup_map names first second
      (congrArg Standing.name (rankedBefore_decides.antisymm before after))

end Ordered

section Numbered

variable {entities others : List Entity}

theorem numbered_shows (entities : List Entity) :
    List.Forall₂ RankedEntity.Shows (numbered entities) entities := by
  have places := List.zipIdx_map_fst 0 entities
  have each : List.Forall₂ (fun entry e => (RankedEntity.ofEntity (entry.2 + 1) entry.1).Shows e)
      entities.zipIdx (entities.zipIdx.map Prod.fst) :=
    List.forall₂_map_right_iff.mpr (List.forall₂_same.mpr fun _ _ => ⟨rfl, rfl, rfl, rfl, rfl, rfl⟩)
  rw [places] at each
  exact List.forall₂_map_left_iff.mpr each

theorem numbered_places (entities : List Entity) :
    (numbered entities).map RankedEntity.rank = List.range' 1 entities.length := by
  calc
    _ = (entities.zipIdx.map Prod.snd).map (1 + ·) := by
      rw [numbered, List.map_map, List.map_map]
      exact List.map_congr_left fun entry _ => Nat.add_comm entry.2 1
    _ = (List.range' 0 entities.length).map (1 + ·) := by rw [List.zipIdx_map_snd]
    _ = List.range' 1 entities.length := List.map_add_range' 0 _ 1

theorem numbered_prefix (ahead : entities <+: others) : numbered entities <+: numbered others := by
  obtain ⟨rest, rfl⟩ := ahead
  rw [numbered, numbered, List.zipIdx_append, List.map_append]
  exact List.prefix_append _ _

theorem keep_prefix (top : Option Nat) (entities : List Entity) : keep top entities <+: entities := by
  cases top with
  | none => exact List.prefix_rfl
  | some n => exact List.take_prefix n entities

theorem keep_prefix_keep {n : Nat} {top : Option Nat} (fewer : ∀ m ∈ top, n ≤ m)
    (entities : List Entity) : keep (some n) entities <+: keep top entities := by
  cases top with
  | none => exact List.take_prefix n entities
  | some m => exact List.take_prefix_take_left (fewer m rfl)

end Numbered

structure IsRanking (entities : List Entity) (top : Option Nat) (rows : List RankedEntity) :
    Prop where
  length : rows.length = top.elim entities.length (min · entities.length)
  places : rows.map RankedEntity.rank = List.range' 1 rows.length
  descending : rows.Pairwise fun a b => a.standing.Before b.standing
  selected : ∃ kept left, (kept ++ left).Perm entities ∧
    List.Forall₂ RankedEntity.Shows rows kept ∧
    ∀ row ∈ rows, ∀ e ∈ left, row.standing.Before e.standing

theorem rank_isRanking {entities : List Entity} (names : (entities.map Entity.name).Nodup)
    (top : Option Nat) : IsRanking entities top (rank entities top) := by
  obtain ⟨left, parts⟩ := keep_prefix top (ordered entities)
  have shown := numbered_shows (keep top (ordered entities))
  have column : (rank entities top).map RankedEntity.standing =
      (keep top (ordered entities)).map Entity.standing := rank_column fun _ _ => rfl
  have sorted := ordered_standings names
  rw [← parts, List.pairwise_append] at sorted
  obtain ⟨inside, -, across⟩ := sorted
  refine {
    length := ?_
    places := by rw [rank, numbered_places, ← shown.length_eq]
    descending := ?_
    selected := ⟨_, left, parts.symm ▸ ordered_perm entities, shown, ?_⟩ }
  · cases top with
    | none => exact shown.length_eq.trans (ordered_perm entities).length_eq
    | some n => exact length_rank n
  · rw [← List.pairwise_map, column, List.pairwise_map]
    exact inside
  · intro row listed e omitted
    obtain ⟨kept, member, same⟩ := List.mem_map.mp (column ▸ List.mem_map_of_mem listed)
    exact same ▸ across kept member e omitted

section Limits

def asked : Option Int → Value
  | none => .null
  | some n => .integer n

theorem ranking_natural (entities : List Entity) (top : Option Nat) :
    ranking entities (asked (top.map Nat.cast)) = .ok (rank entities top) := by
  cases top with
  | none => rfl
  | some n =>
    have counted : ¬ (n : Int) < 0 := Int.natCast_nonneg n |>.not_gt
    simp [ranking, limitOf, asked, readLimit, counted, Except.map, Except.mapError]

theorem ranking_negative (entities : List Entity) {n : Int} (below : n < 0) :
    ranking entities (asked (some n)) =
      .error (.limit (.negative (Value.integer n).plainText)) := by
  simp [ranking, limitOf, asked, readLimit, below, Except.map, Except.mapError]

theorem ranking_error_iff (entities : List Entity) (top : Option Int) :
    (∃ failure, ranking entities (asked top) = .error failure ∧ failure.label = "ValueError") ↔
      ∃ n ∈ top, n < 0 := by
  constructor
  · rintro ⟨failure, failed, -⟩
    cases top with
    | none => cases failed
    | some n =>
      refine ⟨n, rfl, Int.not_le.mp fun counted => ?_⟩
      obtain ⟨m, rfl⟩ := Int.eq_ofNat_of_zero_le counted
      cases (ranking_natural entities (some m)).symm.trans failed
  · rintro ⟨n, given, below⟩
    rw [given]
    exact ⟨_, ranking_negative entities below, rfl⟩

end Limits

/-- A table shows the first of its entities, in the one order that there is of entities named apart,
and fails for a number of rows that is negative, whatever the entities. -/
theorem ranking_selects (entities : List Entity) :
    (∀ top : Option Int, (∃ failure, ranking entities (asked top) = .error failure ∧
        failure.label = "ValueError") ↔ ∃ n ∈ top, n < 0) ∧
      ((entities.map Entity.name).Nodup → ∀ top : Option Nat, ∃ rows,
        IsRanking entities top rows ∧
        (∀ others, entities.Perm others →
          ranking others (asked (top.map Nat.cast)) = .ok rows) ∧
        ∀ n : Nat, (∀ m ∈ top, n ≤ m) →
          ∃ fewer, ranking entities (asked (some n)) = .ok fewer ∧ fewer <+: rows) := by
  refine ⟨ranking_error_iff entities, fun names top => ⟨_, rank_isRanking names top, ?_, ?_⟩⟩
  · intro others order
    rw [ranking_natural, rank, rank, ordered_congr names order]
  · intro n fewer
    exact ⟨_, ranking_natural entities (some n), numbered_prefix (keep_prefix_keep fewer _)⟩

def tiedLanguages : List Entity :=
  [("rust", -1), ("java", 3), ("go", 3)].map fun language =>
    .ofTally (.codeCompletions, .language, language.1)
      ⟨{ Counts.zero with engagedUsers := language.2 }, 1, false⟩

theorem tiedLanguages_ranking : (tiedLanguages.map Entity.name).Nodup ∧
    ∃ rows, IsRanking tiedLanguages (some 2) rows ∧
      (∀ others, tiedLanguages.Perm others → ranking others (asked (some 2)) = .ok rows) ∧
      ∃ fewer, ranking tiedLanguages (asked (some 1)) = .ok fewer ∧ fewer <+: rows := by
  have names : (tiedLanguages.map Entity.name).Nodup := by decide
  obtain ⟨rows, selected, same, first⟩ := (ranking_selects tiedLanguages).2 names (some 2)
  exact ⟨names, rows, selected, same, first 1 (by decide)⟩

end UsageMetrics.Window
