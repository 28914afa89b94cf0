import UsageMetrics.Proofs.Window.Dates

namespace UsageMetrics.Window

open UsageMetrics.Calendar UsageMetrics.Daily UsageMetrics.Feed

section Stable

variable {α : Type} {le : α → α → Bool} {p : α → Bool} {as : List α}

theorem filter_mergeSort (trans : ∀ a b c, le a b = true → le b c = true → le a c = true)
    (total : ∀ a b, (le a b || le b a) = true)
    (level : ∀ a b, p a = true → p b = true → le a b = true) :
    (as.mergeSort le).filter p = as.filter p := by
  have ordered : (as.filter p).Pairwise fun a b => le a b = true :=
    List.pairwise_of_forall_mem_list fun a inFirst b inSecond =>
      level a b (List.mem_filter.mp inFirst).2 (List.mem_filter.mp inSecond).2
  -- What is in order already stays as it is, among whatever else is sorted.
  have kept := (List.sublist_mergeSort trans total ordered List.filter_sublist).filter p
  simp only [List.filter_filter, Bool.and_self] at kept
  exact (kept.eq_of_length ((List.mergeSort_perm as le).filter p).length_eq.symm).symm

theorem getLast?_filter {a : α} (last : as.getLast? = some a) (picked : p a = true) :
    (as.filter p).getLast? = some a := by
  obtain ⟨before, rfl⟩ := List.getLast?_eq_some_iff.mp last
  simp [List.filter_append, picked]

end Stable

theorem find?_foldl_newer (best : Snapshot) (rest : List Snapshot) :
    (best :: rest).find? (fun s => s.day = (rest.foldl newer best).day) =
      some (rest.foldl newer best) := by
  -- The best one so far gives way to a later date only, so it is the first one of its date.
  induction rest generalizing best with
  | nil => simp
  | cons s others ih =>
    have found := ih (newer best s)
    have above := newer_selects.foldl_above (newer best s) others _ List.mem_cons_self
    rw [List.foldl_cons]
    obtain ⟨newest, chosen⟩ : ∃ newest, newest = others.foldl newer (newer best s) := ⟨_, rfl⟩
    rw [← chosen] at found above ⊢
    rw [Day.le_iff] at above
    have passed {t : Snapshot} (below : t.day.ordinal < newest.day.ordinal) :
        decide (t.day = newest.day) = false := by
      refine decide_eq_false fun same => ?_
      rw [same] at below
      exact absurd below (Nat.lt_irrefl _)
    by_cases later : best.day < s.day
    · have next : newer best s = s := if_pos later
      rw [next] at found above
      rwa [List.find?_cons, passed (Nat.lt_of_lt_of_le later above)]
    · have kept : newer best s = best := if_neg later
      rw [kept] at found above
      rw [List.find?_cons] at found ⊢
      by_cases level : best.day = newest.day
      · rwa [decide_eq_true level] at found ⊢
      · have beaten : best.day.ordinal < newest.day.ordinal :=
          Nat.lt_of_le_of_ne above fun same => level (Day.ordinal_injective same)
        have behind : s.day.ordinal ≤ best.day.ordinal := Nat.not_lt.mp later
        rw [passed beaten] at found ⊢
        rwa [List.find?_cons, passed (Nat.lt_of_le_of_lt behind beaten)]

structure LastDate (snapshots : List Snapshot) (day : Day) (first last : Snapshot) : Prop where
  newest : ∀ s ∈ snapshots, s.day ≤ day
  first : (snapshots.filter fun s => s.day = day).head? = some first
  last : (snapshots.filter fun s => s.day = day).getLast? = some last

section Ends

variable {snapshots : List Snapshot}

theorem lastDate_of_latest {first : Snapshot} (latest : latest? snapshots = some first) :
    ∃ last, LastDate snapshots first.day first last := by
  obtain ⟨inWindow, newest⟩ := latest?_spec latest
  have found : (snapshots.filter fun s => s.day = first.day).head? = some first := by
    rw [List.head?_filter]
    cases snapshots with
    | nil => cases latest
    | cons best rest =>
      obtain rfl := Option.some.inj latest
      exact find?_foldl_newer best rest
  have some : (snapshots.filter fun s => s.day = first.day) ≠ [] :=
    List.ne_nil_of_mem (List.mem_filter.mpr ⟨inWindow, decide_eq_true rfl⟩)
  exact ⟨_, newest, found, List.getLast?_eq_some_getLast some⟩

theorem filter_rows (day : Day) : (rows snapshots).filter (fun row => row.day = day) =
    (snapshots.filter fun s => s.day = day).map Snapshot.figures := by
  have level (a b : Figures) (first : decide (a.day = day) = true)
      (second : decide (b.day = day) = true) : dayBefore a b = true := by
    rw [dayBefore, of_decide_eq_true first, of_decide_eq_true second]
    exact decide_eq_true (Nat.le_refl _)
  rw [rows, filter_mergeSort dayBefore_trans dayBefore_total level, List.filter_map]
  rfl

theorem getLast?_rows {day : Day} {first last : Snapshot}
    (ends : LastDate snapshots day first last) : (rows snapshots).getLast? = some last.figures := by
  obtain ⟨inWindow, dated⟩ := List.mem_filter.mp (List.mem_of_mem_getLast? ends.last)
  have listed : day ∈ (rows snapshots).map Figures.day :=
    mem_days_rows.mpr (List.mem_map.mpr ⟨last, inWindow, of_decide_eq_true dated⟩)
  have most : ∀ d ∈ (rows snapshots).map Figures.day, d ≤ day := by
    intro d inRows
    obtain ⟨s, member, rfl⟩ := List.mem_map.mp (mem_days_rows.mp inRows)
    exact ends.newest s member
  have sorted := List.pairwise_map.mpr (rows_sorted snapshots)
  have finish := getLast?_of_sorted sorted listed most
  rw [List.getLast?_map] at finish
  obtain ⟨row, atEnd, ofDay⟩ := Option.map_eq_some_iff.mp finish
  have amongOfDay :=
    getLast?_filter (p := fun row => decide (row.day = day)) atEnd (decide_eq_true ofDay)
  rw [filter_rows, List.getLast?_map, ends.last] at amongOfDay
  rw [atEnd, ← amongOfDay]
  rfl

end Ends

/-- The latest day of a summary is the first snapshot of the last date, the chart ends with the last
one: they are the same if only one record has that date. -/
theorem usageSummary_lastDay {settings : Settings} (plain : settings.Plain) {raws : List Value}
    (accepted : ∃ raw ∈ raws, (Daily.normalize raw).isOk) :
    ∃ summary day first last, usageSummary settings (.list raws) = .ok (.found summary) ∧
      LastDate (normalizeAll raws).1 day first last ∧ summary.latestDay = first.figures ∧
      summary.dailySeries.getLast? = some last.figures ∧
      (((normalizeAll raws).1.filter fun s => s.day = day).length = 1 →
        summary.dailySeries.getLast? = some summary.latestDay) := by
  obtain ⟨top, range, first, latest, found⟩ := usageSummary_found plain (snapshots_ne_nil accepted)
  obtain ⟨last, ends⟩ := lastDate_of_latest latest
  have finish := getLast?_rows ends
  refine ⟨_, first.day, first, last, found, ends, rfl, finish, fun single => ?_⟩
  obtain ⟨only, alone⟩ := List.length_eq_one_iff.mp single
  have start := ends.first
  have stop := ends.last
  rw [alone] at start stop
  obtain rfl := Option.some.inj start
  obtain rfl := Option.some.inj stop
  exact finish

def newestFirst : List Value :=
  [.object [("date", .text "2025-01-02"), ("total_active_users", .integer 5)],
    .object [("date", .text "2025-01-01")], .object [("date", .text "2025-01-01")]]

theorem newestFirst_lastDay :
    ∃ summary, usageSummary .default (.list newestFirst) = .ok (.found summary) ∧
      summary.dailySeries.getLast? = some summary.latestDay := by
  have kept : ∃ raw ∈ newestFirst, (Daily.normalize raw).isOk := by decide
  have alone : ∀ s ∈ (normalizeAll newestFirst).1,
      (∀ t ∈ (normalizeAll newestFirst).1, t.day ≤ s.day) →
        ((normalizeAll newestFirst).1.filter fun t => t.day = s.day).length = 1 := by decide
  obtain ⟨summary, day, first, last, found, ends, -, -, single⟩ :=
    usageSummary_lastDay (Settings.default_plain .max) kept
  obtain ⟨inWindow, dated⟩ := List.mem_filter.mp (List.mem_of_mem_head? ends.first)
  obtain rfl := of_decide_eq_true dated
  exact ⟨summary, found, single (alone first inWindow ends.newest)⟩

def correctedWindow : List Value :=
  [.object [("date", .text "2025-01-01"), ("total_active_users", .integer 1)],
    .object [("date", .text "2025-01-01"), ("total_active_users", .integer 2)]]

theorem correctedWindow_ends :
    ∃ summary, usageSummary .default (.list correctedWindow) = .ok (.found summary) ∧
      summary.dailySeries.getLast? ≠ some summary.latestDay := by
  have plain := Settings.default_plain .max
  have kept : ∃ raw ∈ correctedWindow, (Daily.normalize raw).isOk := by decide
  obtain ⟨top, range, first, latest, found⟩ := usageSummary_found plain (snapshots_ne_nil kept)
  obtain ⟨last, ends⟩ := lastDate_of_latest latest
  have users : (latest? (normalizeAll correctedWindow).1).map (fun s => (s.activeUsers,
      ((normalizeAll correctedWindow).1.filter fun t => t.day = s.day).getLast?.map
        Snapshot.activeUsers)) = some (1, some 2) := by decide
  rw [latest, Option.map_some, ends.last, Option.map_some] at users
  obtain ⟨one, two⟩ := Prod.mk.inj (Option.some.inj users)
  refine ⟨_, found, fun same => ?_⟩
  have level : last.figures = first.figures :=
    Option.some.inj ((getLast?_rows ends).symm.trans same)
  have counts : last.activeUsers = first.activeUsers := congrArg Figures.activeUsers level
  rw [one, Option.some.inj two] at counts
  cases counts

end UsageMetrics.Window
