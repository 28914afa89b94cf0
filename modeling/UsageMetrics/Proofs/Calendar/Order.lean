import UsageMetrics.Calendar.Day

namespace UsageMetrics.Calendar

def LeapYear (year : Nat) : Prop := 4 ∣ year ∧ (100 ∣ year → 400 ∣ year)

theorem isLeap_iff {year : Nat} : isLeap year = true ↔ LeapYear year := by
  simp only [isLeap, LeapYear, Bool.and_eq_true, Bool.or_eq_true, decide_eq_true_eq,
    Nat.dvd_iff_mod_eq_zero]
  omega

namespace Day

theorem le_iff {a b : Day} : a ≤ b ↔ a.ordinal ≤ b.ordinal := Iff.rfl

theorem lt_iff {a b : Day} : a < b ↔ a.ordinal < b.ordinal := Iff.rfl

theorem daysBeforeYear_succ {year : Nat} (positive : 1 ≤ year) :
    daysBeforeYear (year + 1) = daysBeforeYear year + if isLeap year then 366 else 365 := by
  obtain ⟨n, rfl⟩ : ∃ n, year = n + 1 := ⟨year - 1, by omega⟩
  have centuries : n / 100 ≤ n / 4 := Nat.div_le_div_left (by decide) (by decide)
  have fourth : (n + 1) / 4 = n / 4 + if 4 ∣ n + 1 then 1 else 0 := Nat.succ_div
  have hundredth : (n + 1) / 100 = n / 100 + if 100 ∣ n + 1 then 1 else 0 := Nat.succ_div
  have fourHundredth : (n + 1) / 400 = n / 400 + if 400 ∣ n + 1 then 1 else 0 := Nat.succ_div
  have counted : daysBeforeYear (n + 1 + 1) =
      365 * (n + 1) + (n + 1) / 4 - (n + 1) / 100 + (n + 1) / 400 := rfl
  have before : daysBeforeYear (n + 1) = 365 * n + n / 4 - n / 100 + n / 400 := rfl
  rw [counted, before, fourth, hundredth, fourHundredth]
  clear counted before fourth hundredth fourHundredth
  by_cases long : isLeap (n + 1) = true
  · obtain ⟨quarter, century⟩ := isLeap_iff.mp long
    simp only [long, quarter, ↓reduceIte]
    split <;> split <;> omega
  · have plain : ¬(4 ∣ n + 1 ∧ (100 ∣ n + 1 → 400 ∣ n + 1)) := mt isLeap_iff.mpr long
    simp only [long, Bool.false_eq_true, ↓reduceIte]
    split <;> split <;> split <;> omega

theorem daysBeforeYear_mono {year other : Nat} (positive : 1 ≤ year) (before : year ≤ other) :
    daysBeforeYear year ≤ daysBeforeYear other := by
  induction before with
  | refl => exact Nat.le_refl _
  | step before ih =>
    rw [Nat.succ_eq_add_one, daysBeforeYear_succ (Nat.le_trans positive before)]
    omega

theorem daysBeforeMonth_succ (year : Nat) {month : Nat} (positive : 1 ≤ month) :
    daysBeforeMonth year (month + 1) = daysBeforeMonth year month + daysInMonth year month := by
  obtain ⟨earlier, rfl⟩ : ∃ earlier, month = earlier + 1 := ⟨month - 1, by omega⟩
  simp [daysBeforeMonth, List.range_succ]

theorem daysBeforeMonth_mono (year : Nat) {month other : Nat} (positive : 1 ≤ month)
    (before : month ≤ other) : daysBeforeMonth year month ≤ daysBeforeMonth year other := by
  induction before with
  | refl => exact Nat.le_refl _
  | step before ih =>
    rw [Nat.succ_eq_add_one, daysBeforeMonth_succ year (Nat.le_trans positive before)]
    omega

theorem daysBeforeMonth_thirteen (year : Nat) :
    daysBeforeMonth year 13 = if isLeap year then 366 else 365 := by
  cases leap : isLeap year <;> simp [daysBeforeMonth, List.range_succ, daysInMonth, leap]

theorem bounds (d : Day) :
    1 ≤ d.year ∧ 1 ≤ d.month ∧ d.month ≤ 12 ∧ 1 ≤ d.day ∧ d.day ≤ daysInMonth d.year d.month := by
  have valid := d.valid
  simp only [isDay, Bool.and_eq_true, decide_eq_true_eq] at valid
  omega

theorem year_le (d : Day) : d.year ≤ 9999 := by
  have valid := d.valid
  simp only [isDay, Bool.and_eq_true, decide_eq_true_eq] at valid
  omega

theorem daysInMonth_le (year month : Nat) : daysInMonth year month ≤ 31 := by
  unfold daysInMonth
  split
  · split <;> omega
  · split <;> omega

theorem daysInMonth_pos (year month : Nat) : 1 ≤ daysInMonth year month := by
  unfold daysInMonth
  split
  · split <;> omega
  · split <;> omega

theorem dayOfYear_lt {a b : Day} (year : a.year = b.year) (month : a.month < b.month) :
    a.dayOfYear < b.dayOfYear := by
  obtain ⟨-, positive, -, -, fits⟩ := a.bounds
  obtain ⟨-, -, -, first, -⟩ := b.bounds
  have next := daysBeforeMonth_succ a.year positive
  have later := daysBeforeMonth_mono a.year (Nat.le_add_left 1 _) (Nat.succ_le_of_lt month)
  simp only [dayOfYear, ← year]
  omega

theorem ordinal_lt_of_year {a b : Day} (year : a.year < b.year) : a.ordinal < b.ordinal := by
  obtain ⟨positive, fromFirst, toLast, -, fits⟩ := a.bounds
  obtain ⟨-, -, -, first, -⟩ := b.bounds
  have next := daysBeforeYear_succ positive
  have later := daysBeforeYear_mono (Nat.le_add_left 1 _) (Nat.succ_le_of_lt year)
  have month := daysBeforeMonth_succ a.year fromFirst
  have toEnd := daysBeforeMonth_mono a.year (Nat.le_add_left 1 _) (Nat.succ_le_succ toLast)
  rw [daysBeforeMonth_thirteen] at toEnd
  simp only [ordinal, dayOfYear]
  omega

theorem ordinal_injective {a b : Day} (same : a.ordinal = b.ordinal) : a = b := by
  have year : a.year = b.year := by
    rcases Nat.lt_trichotomy a.year b.year with less | same | greater
    · have := ordinal_lt_of_year less
      omega
    · exact same
    · have := ordinal_lt_of_year greater
      omega
  have inYear : a.dayOfYear = b.dayOfYear := by
    simp only [ordinal, year] at same
    omega
  have month : a.month = b.month := by
    rcases Nat.lt_trichotomy a.month b.month with less | same | greater
    · have := dayOfYear_lt year less
      omega
    · exact same
    · have := dayOfYear_lt year.symm greater
      omega
  have day : a.day = b.day := by
    simp only [dayOfYear, year, month] at inYear
    omega
  cases a
  cases b
  simp_all

theorem le_antisymm {a b : Day} (first : a ≤ b) (second : b ≤ a) : a = b :=
  ordinal_injective (Nat.le_antisymm (le_iff.mp first) (le_iff.mp second))

end Day

end UsageMetrics.Calendar
