import UsageMetrics.Proofs.Calendar.IsoText
import UsageMetrics.Proofs.Daily.Intake
import UsageMetrics.Proofs.Feed.Unreadable
import UsageMetrics.Proofs.Window.Places

namespace UsageMetrics.Window

open UsageMetrics.Calendar UsageMetrics.Daily UsageMetrics.Feed UsageMetrics.Number
  UsageMetrics.Text

theorem snapshots_cons {raw : Value} {result : Snapshot × List Warning}
    (accepted : Daily.normalize raw = .ok result) (raws : List Value) :
    (normalizeAll (raw :: raws)).1 = result.1 :: (normalizeAll raws).1 := by
  simp [normalizeAll, acceptedDays, accepted, Except.toOption]

theorem mem_snapshots {raws : List Value} {s : Snapshot} :
    s ∈ (normalizeAll raws).1 ↔
      ∃ raw ∈ raws, ∃ warnings, Daily.normalize raw = .ok (s, warnings) := by
  simp only [normalizeAll, acceptedDays, List.mem_map, List.mem_filterMap, toOption_eq_some_iff]
  constructor
  · intro known
    rcases known with ⟨result, ⟨raw, member, accepted⟩, rfl⟩
    exact ⟨raw, member, result.2, accepted⟩
  · intro known
    rcases known with ⟨raw, member, warnings, accepted⟩
    exact ⟨(s, warnings), ⟨raw, member, accepted⟩, rfl⟩

theorem snapshots_ne_nil {raws : List Value}
    (accepted : ∃ raw ∈ raws, (Daily.normalize raw).isOk) : (normalizeAll raws).1 ≠ [] := by
  obtain ⟨raw, member, ok⟩ := accepted
  obtain ⟨result, normalized⟩ := exists_ok ok
  exact List.ne_nil_of_mem (mem_snapshots.mpr ⟨raw, member, result.2, normalized⟩)

theorem exists_accepted {raws : List Value} (accepted : ∀ raw ∈ raws, (Daily.normalize raw).isOk)
    (nonempty : raws ≠ []) : ∃ raw ∈ raws, (Daily.normalize raw).isOk := by
  obtain ⟨raw, member⟩ := List.exists_mem_of_ne_nil raws nonempty
  exact ⟨raw, member, accepted raw member⟩

theorem readDate_congr {given other : List (String × Value)}
    (same : given.lookup "date" = other.lookup "date") :
    readDate (Shape.daily.read (.object given)).1.daily =
      readDate (Shape.daily.read (.object other)).1.daily := by
  simp only [readDate, date_read, Value.at?, same]

theorem normalize_object {given : List (String × Value)} {result : Snapshot × List Warning} :
    Daily.normalize (.object given) = .ok result ↔
      ¬Unreadable (.one .daily) (.object given) ∧
        ∃ day, readDate (Shape.daily.read (.object given)).1.daily = .ok day ∧
          normalizeOn day (Shape.daily.read (.object given)).1.daily = result := by
  constructor
  · intro accepted
    obtain ⟨record, day, read, dated, rfl⟩ := normalize_ok accepted
    obtain ⟨readable, rfl⟩ := readDaily_object.mp read
    exact ⟨readable, day, dated, rfl⟩
  · intro known
    rcases known with ⟨readable, day, dated, rfl⟩
    simp only [Daily.normalize, readDaily_object.mpr ⟨readable, rfl⟩, normalizeRecord, dated]
    rfl

/-- What a record holds besides its date costs the day only if it is let pass, or never looked at,
before the reader refuses it. -/
theorem day_kept_iff_readable {given : List (String × Value)} {date : Value}
    {alone : Snapshot × List Warning} (dated : given.lookup "date" = some date)
    (usable : Daily.normalize (.object [("date", date)]) = .ok alone) :
    ((Daily.normalize (.object given)).isOk ↔ ¬Unreadable (.one .daily) (.object given)) ∧
      ∀ kept, Daily.normalize (.object given) = .ok kept → kept.1.day = alone.1.day ∧
        ∀ raws, .object given ∈ raws → kept.1 ∈ (normalizeAll raws).1 := by
  have same : given.lookup "date" = [("date", date)].lookup "date" := by simp [dated]
  obtain ⟨-, day, stands, rfl⟩ := normalize_object.mp usable
  rw [← readDate_congr same] at stands
  constructor
  · constructor
    · intro accepted
      obtain ⟨result, normalized⟩ := exists_ok accepted
      exact (normalize_object.mp normalized).1
    · intro readable
      rw [normalize_object.mpr ⟨readable, day, stands, rfl⟩]
      rfl
  · intro kept accepted
    obtain ⟨-, other, dated, rfl⟩ := normalize_object.mp accepted
    rw [stands] at dated
    obtain rfl := Except.ok.inj dated
    exact ⟨rfl, fun raws member => mem_snapshots.mpr ⟨_, member, _, accepted⟩⟩

theorem dateAlone_isOk : (Daily.normalize (.object [("date", .text "2025-01-01")])).isOk := by
  decide

def scribbledDay : List (String × Value) :=
  [("total_active_users", .text "many"), ("total_engaged_users", .integer (-4)),
    ("copilot_ide_chat", .list []), ("date", .text "2025-01-01"), ("repaired_fields", .integer 5),
    ("copilot_ide_code_completions", .object
      [("languages", .text "go"), ("editors", .list [.null, .integer 7, .object
        [("name", .bool true), ("models", .list [.object
          [("is_custom_model", .integer 2), ("total_chats", .float (.finite true 1 0))]])]])]),
    ("unheard_of", .list [.null])]

theorem scribbledDay_kept : ∃ kept, ¬Unreadable (.one .daily) (.object scribbledDay) ∧
    Daily.normalize (.object scribbledDay) = .ok kept ∧
      ∀ raws, .object scribbledDay ∈ raws → kept.1 ∈ (normalizeAll raws).1 := by
  have accepted : (Daily.normalize (.object scribbledDay)).isOk := by decide
  obtain ⟨kept, normalized⟩ := exists_ok accepted
  obtain ⟨alone, usable⟩ := exists_ok dateAlone_isOk
  have dated : scribbledDay.lookup "date" = some (.text "2025-01-01") := rfl
  obtain ⟨readable, keeps⟩ := day_kept_iff_readable dated usable
  exact ⟨kept, readable.mp accepted, normalized, (keeps kept normalized).2⟩

def LosesDay (given : List (String × Value)) : Prop :=
  ∃ date, given.lookup "date" = some date ∧ (Daily.normalize (.object [("date", date)])).isOk ∧
    ¬(Daily.normalize (.object given)).isOk

theorem nines_oversized {n : Nat} (long : longestNumeral < n) :
    Value.Oversized (.text (String.ofList (List.replicate n '9'))) := by
  have filled : List.replicate n '9' ≠ [] :=
    List.ne_nil_of_length_pos (by rw [List.length_replicate]; omega)
  have digits : Digits (List.replicate n '9') := fun c member => by
    rw [List.eq_of_mem_replicate member]
    rfl
  have kept : (List.replicate n '9').dropWhile (· = '0') = List.replicate n '9' := by
    rw [List.dropWhile_replicate]
    rfl
  refine .digits ?_ ?_
  · rw [String.toList_ofList, natural?_digits filled digits]
    rfl
  · rwa [String.toList_ofList, kept, List.length_replicate]

theorem oversized_losesDay {value : Value} (large : value.Oversized) :
    LosesDay [("date", .text "2025-01-01"), ("total_active_users", value)] := by
  have present : Value.at? [("date", .text "2025-01-01"), ("total_active_users", value)]
      "total_active_users" = some value := by cases large <;> rfl
  refine ⟨_, rfl, dateAlone_isOk, fun accepted => ?_⟩
  obtain ⟨result, normalized⟩ := exists_ok accepted
  exact (normalize_object.mp normalized).1
    (.field (.tail _ (.head _)) present (.count large))

/-- A counter too large, in either spelling, a padded word for a flag and a claim that is no
list. -/
theorem oneField_losesDay :
    LosesDay [("date", .text "2025-01-01"), ("total_active_users", .float (.finite false 1 63))] ∧
    LosesDay [("date", .text "2025-01-01"),
      ("total_active_users", .text (String.ofList (List.replicate 4301 '9')))] ∧
    LosesDay [("date", .text "2025-01-01"), ("copilot_dotcom_chat", .object [("models", .list
      [.object [("name", .text "m"), ("is_custom_model", .text " no ")]])])] ∧
    LosesDay [("date", .text "2025-01-01"), ("repaired_fields", .integer 5)] := by
  exact ⟨oversized_losesDay (.float rfl (by decide)),
    oversized_losesDay (nines_oversized (by decide)),
    ⟨_, rfl, dateAlone_isOk, by decide⟩, ⟨_, rfl, dateAlone_isOk, by decide⟩⟩

end UsageMetrics.Window
