import UsageMetrics.Proofs.Calendar.IsoText
import UsageMetrics.Proofs.Daily.Intake

namespace UsageMetrics.Calendar

structure OnCalendar (year month day : Nat) : Prop where
  inYears : 1 ≤ year ∧ year ≤ 9999
  inYear : 1 ≤ month ∧ month ≤ 12
  inMonth : 1 ≤ day ∧ day ≤ 31
  short : month = 4 ∨ month = 6 ∨ month = 9 ∨ month = 11 → day ≤ 30
  february : month = 2 → day ≤ 29
  leapDay : month = 2 → day = 29 → LeapYear year

theorem le_daysInMonth_iff {year month day : Nat} : day ≤ daysInMonth year month ↔
    day ≤ 31 ∧ (month = 4 ∨ month = 6 ∨ month = 9 ∨ month = 11 → day ≤ 30) ∧
      (month = 2 → day ≤ 29) ∧ (month = 2 → day = 29 → LeapYear year) := by
  have leap : isLeap year = true ↔ LeapYear year := isLeap_iff
  unfold daysInMonth
  split
  · split
    · rename_i february long
      exact ⟨fun fits => ⟨by omega, by omega, fun _ => fits, fun _ _ => leap.mp long⟩,
        fun bounds => bounds.2.2.1 february⟩
    · rename_i february common
      refine ⟨fun fits => ⟨by omega, by omega, by omega, by omega⟩, fun bounds => ?_⟩
      have most := bounds.2.2.1 february
      have other : day ≠ 29 := fun last => common (leap.mpr (bounds.2.2.2 february last))
      omega
  · split
    · rename_i short
      exact ⟨fun fits => ⟨by omega, fun _ => fits, by omega, by omega⟩,
        fun bounds => bounds.2.1 short⟩
    · exact ⟨fun fits => ⟨fits, by omega, by omega, by omega⟩, fun bounds => bounds.1⟩

theorem isDay_iff {year month day : Nat} :
    isDay year month day = true ↔ OnCalendar year month day := by
  simp only [isDay, Bool.and_eq_true, decide_eq_true_eq, le_daysInMonth_iff]
  constructor
  · rintro ⟨⟨⟨⟨⟨first, last⟩, january⟩, december⟩, opening⟩, long, short, february, leapDay⟩
    exact ⟨⟨first, last⟩, ⟨january, december⟩, ⟨opening, long⟩, short, february, leapDay⟩
  · rintro ⟨⟨first, last⟩, ⟨january, december⟩, ⟨opening, long⟩, short, february, leapDay⟩
    exact ⟨⟨⟨⟨⟨first, last⟩, january⟩, december⟩, opening⟩, long, short, february, leapDay⟩

theorem Day.parts_of? {year month day : Nat} {d : Day} (made : of? year month day = some d) :
    year = d.year ∧ month = d.month ∧ day = d.day := by
  rw [of?, Option.dite_none_right_eq_some] at made
  obtain ⟨valid, same⟩ := made
  obtain rfl := Option.some.inj same
  exact ⟨rfl, rfl, rfl⟩

theorem Day.of?_eq_none_iff {year month day : Nat} :
    of? year month day = none ↔ ¬OnCalendar year month day := by
  rw [of?, ← isDay_iff]
  split <;> simp_all

end UsageMetrics.Calendar

namespace UsageMetrics.Daily

open UsageMetrics.Calendar UsageMetrics.Feed UsageMetrics.Text

def dated (text : String) : Value := .object [("date", .text text)]

theorem normalize_dated (text : String) :
    ∃ r : DailyRecord, r.date = some text ∧ normalize (dated text) = normalizeRecord r :=
  ⟨_, rfl, rfl⟩

theorem normalize_dated_iff {text : String} {day : Day} :
    (∃ result, normalize (dated text) = .ok result ∧ result.1.day = day) ↔
      Day.ofIso? text = some day := by
  obtain ⟨r, own, made⟩ := normalize_dated text
  rw [made, normalizeRecord, ← readDate_ok_iff own]
  constructor
  · rintro ⟨result, accepted, rfl⟩
    cases read : readDate r with
    | error refusal =>
      rw [read] at accepted
      cases accepted
    | ok day =>
      rw [read] at accepted
      obtain rfl := Except.ok.inj accepted
      rfl
  · intro read
    rw [read]
    exact ⟨_, rfl, rfl⟩

theorem normalize_undatable {text : String} (present : text ≠ "")
    (unread : Day.ofIso? text = none) : normalize (dated text) = .error (.notDay text) := by
  obtain ⟨r, own, made⟩ := normalize_dated text
  have some : ¬text.isEmpty := fun empty => present (String.isEmpty_iff.mp empty)
  have refused : readDate r = .error (.notDay text) := by
    rw [readDate, own]
    simp only [some, unread, Bool.false_eq_true, ↓reduceIte]
  rw [made, normalizeRecord, refused]
  rfl

/-- A text that begins with the digits of a date makes a day just if there is one of that date,
whatever follows. In whatever form a day was told, its own text tells it again. -/
theorem normalize_datesExact :
    (∀ text year month day, Spelled (text.toList.take 10) year month day →
      ((∃ result, normalize (dated text) = .ok result) ↔ OnCalendar year month day) ∧
      (¬OnCalendar year month day → normalize (dated text) = .error (.notDay text)) ∧
      ∀ result, normalize (dated text) = .ok result →
        result.1.day.iso.toList = text.toList.take 10) ∧
    ∀ text result, normalize (dated text) = .ok result → ∃ again,
      normalize (dated result.1.day.iso) = .ok again ∧ again.1.day = result.1.day := by
  constructor
  · intro text year month day spelled
    have read := Day.ofIso?_spelled spelled
    have present : text ≠ "" := by
      rintro rfl
      exact absurd spelled.length (by decide)
    refine ⟨⟨?_, ?_⟩, ?_, ?_⟩
    · rintro ⟨result, accepted⟩
      have known := normalize_dated_iff.mp ⟨result, accepted, rfl⟩
      by_contra missing
      rw [read, Day.of?_eq_none_iff.mpr missing] at known
      cases known
    · intro there
      obtain ⟨d, made⟩ := Option.ne_none_iff_exists'.mp fun none =>
        Day.of?_eq_none_iff.mp none there
      obtain ⟨result, accepted, -⟩ := normalize_dated_iff.mpr (read.trans made)
      exact ⟨result, accepted⟩
    · intro missing
      exact normalize_undatable present (read.trans (Day.of?_eq_none_iff.mpr missing))
    · intro result accepted
      have known := normalize_dated_iff.mp ⟨result, accepted, rfl⟩
      obtain ⟨rfl, rfl, rfl⟩ := Day.parts_of? (read.symm.trans known)
      exact result.1.day.iso_spelled.unique spelled
  · intro text result accepted
    exact normalize_dated_iff.mpr result.1.day.ofIso?_iso

theorem leapDay_datesExact :
    (∃ result, normalize (dated "2024-02-29T23:59:59Z") = .ok result ∧
      result.1.day.iso.toList = "2024-02-29".toList) ∧
    normalize (dated "2025-02-29") = .error (.notDay "2025-02-29") ∧
    ∃ result again, normalize (dated "2025-W01-1") = .ok result ∧
      result.1.day.iso = "2024-12-30" ∧ normalize (dated "2024-12-30") = .ok again ∧
      again.1.day = result.1.day := by
  obtain ⟨exactly, again⟩ := normalize_datesExact
  have numeral (cs : List Char) (digits : cs.all Char.isDigit = true) :
      Numeral cs.length cs (Nat.ofDigitChars 10 cs 0) :=
    ⟨rfl, List.all_eq_true.mp digits, rfl⟩
  have leapDay : Spelled ("2024-02-29T23:59:59Z".toList.take 10) 2024 2 29 :=
    .intro (numeral ['2', '0', '2', '4'] rfl) (numeral ['0', '2'] rfl) (numeral ['2', '9'] rfl)
  have noDay : Spelled ("2025-02-29".toList.take 10) 2025 2 29 :=
    .intro (numeral ['2', '0', '2', '5'] rfl) (numeral ['0', '2'] rfl) (numeral ['2', '9'] rfl)
  refine ⟨?_, ?_, ?_⟩
  · obtain ⟨made, -, text⟩ := exactly _ _ _ _ leapDay
    obtain ⟨result, accepted⟩ := made.mpr (isDay_iff.mp (by decide))
    exact ⟨result, accepted, text result accepted⟩
  · exact (exactly _ _ _ _ noDay).2.1 fun there => absurd (isDay_iff.mpr there) (by decide)
  · have monday : Day.ofIso? "2025-W01-1" = some ⟨2024, 12, 30, by decide⟩ := by decide
    obtain ⟨result, accepted, day⟩ := normalize_dated_iff.mpr monday
    have text : result.1.day.iso = "2024-12-30" := by
      rw [day]
      decide
    obtain ⟨once, repeated, same⟩ := again _ _ accepted
    rw [text] at repeated
    exact ⟨result, once, accepted, text, repeated, same⟩

end UsageMetrics.Daily
