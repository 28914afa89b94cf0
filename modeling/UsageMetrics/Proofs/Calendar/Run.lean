import UsageMetrics.Proofs.Calendar.Order

namespace UsageMetrics.Calendar.Day

theorem of?_valid {year month day : Nat} (valid : isDay year month day = true) :
    of? year month day = some ⟨year, month, day, valid⟩ := dif_pos valid

theorem dayOfYear_le (d : Day) : d.dayOfYear ≤ daysBeforeMonth d.year 13 := by
  obtain ⟨-, positive, toLast, -, fits⟩ := d.bounds
  have thirteenth : d.month + 1 ≤ 13 := by omega
  have next := daysBeforeMonth_succ d.year positive
  have later := daysBeforeMonth_mono d.year (Nat.le_add_left 1 _) thirteenth
  simp only [dayOfYear]
  omega

section Next

variable {d last : Day}

theorem next?_in_month (inMonth : d.day < daysInMonth d.year d.month) :
    ∃ next, d.next? = some next ∧ next.ordinal = d.ordinal + 1 := by
  obtain ⟨positive, fromFirst, toLast, first, -⟩ := d.bounds
  have year := d.year_le
  have valid : isDay d.year d.month (d.day + 1) = true := by
    simp only [isDay, Bool.and_eq_true, decide_eq_true_eq]
    omega
  rw [next?, if_pos inMonth]
  exact ⟨_, of?_valid valid, by simp only [ordinal, dayOfYear]; omega⟩

theorem next?_in_year (ended : ¬d.day < daysInMonth d.year d.month) (inYear : d.month < 12) :
    ∃ next, d.next? = some next ∧ next.ordinal = d.ordinal + 1 := by
  obtain ⟨positive, fromFirst, -, first, fits⟩ := d.bounds
  have year := d.year_le
  have month := daysBeforeMonth_succ d.year fromFirst
  have long := daysInMonth_pos d.year (d.month + 1)
  have valid : isDay d.year (d.month + 1) 1 = true := by
    simp only [isDay, Bool.and_eq_true, decide_eq_true_eq]
    omega
  rw [next?, if_neg ended, if_pos inYear]
  exact ⟨_, of?_valid valid, by simp only [ordinal, dayOfYear]; omega⟩

theorem dayOfYear_last (ended : ¬d.day < daysInMonth d.year d.month) (lastMonth : ¬d.month < 12) :
    d.dayOfYear = daysBeforeMonth d.year 13 := by
  obtain ⟨-, -, toLast, -, fits⟩ := d.bounds
  have december : d.month = 12 := by omega
  have thirteenth : daysBeforeMonth d.year 13 =
      daysBeforeMonth d.year 12 + daysInMonth d.year 12 := daysBeforeMonth_succ _ (by decide)
  simp only [dayOfYear, december] at ended fits ⊢
  omega

theorem year_lt_of_lt (before : d < last) (whole : d.dayOfYear = daysBeforeMonth d.year 13) :
    d.year < last.year := by
  rcases Nat.lt_trichotomy d.year last.year with less | same | greater
  · exact less
  · have within := last.dayOfYear_le
    rw [lt_iff, ordinal, ordinal, ← same, whole] at before
    rw [← same] at within
    omega
  · have later := ordinal_lt_of_year greater
    rw [lt_iff] at before
    omega

theorem next?_new_year (ended : ¬d.day < daysInMonth d.year d.month) (lastMonth : ¬d.month < 12)
    (notLast : d.year < last.year) :
    ∃ next, d.next? = some next ∧ next.ordinal = d.ordinal + 1 := by
  have whole := dayOfYear_last ended lastMonth
  have lastYear := last.year_le
  have next := daysBeforeYear_succ d.bounds.1
  have thirteen := daysBeforeMonth_thirteen d.year
  have january : daysBeforeMonth (d.year + 1) 1 = 0 := rfl
  have valid : isDay (d.year + 1) 1 1 = true := by
    simp only [isDay, Bool.and_eq_true, decide_eq_true_eq]
    exact ⟨by omega, daysInMonth_pos _ _⟩
  rw [next?, if_neg ended, if_neg lastMonth]
  refine ⟨_, of?_valid valid, ?_⟩
  simp only [ordinal, whole, thirteen, next]
  simp only [dayOfYear, january]

theorem exists_next? (before : d < last) :
    ∃ next, d.next? = some next ∧ next.ordinal = d.ordinal + 1 := by
  by_cases inMonth : d.day < daysInMonth d.year d.month
  · exact next?_in_month inMonth
  · by_cases inYear : d.month < 12
    · exact next?_in_year inMonth inYear
    · exact next?_new_year inMonth inYear (year_lt_of_lt before (dayOfYear_last inMonth inYear))

end Next

theorem exists_run? (start : Day) {more : Nat}
    (room : ∃ last : Day, last.ordinal = start.ordinal + more) :
    ∃ days, start.run? (more + 1) = some days ∧
      days.map ordinal = List.range' start.ordinal (more + 1) := by
  induction more generalizing start with
  | zero => exact ⟨[start], rfl, rfl⟩
  | succ more ih =>
    obtain ⟨last, far⟩ := room
    have before : start < last := by
      rw [lt_iff]
      omega
    obtain ⟨next, found, ordinal⟩ := exists_next? before
    obtain ⟨days, rest, ordinals⟩ := ih next ⟨last, by omega⟩
    refine ⟨start :: days, by simp [run?, found, rest], ?_⟩
    rw [List.map_cons, ordinals, ordinal]
    exact (List.range'_succ ..).symm

end UsageMetrics.Calendar.Day
