import UsageMetrics.Calendar.IsoText
import UsageMetrics.Proofs.Calendar.Order

namespace UsageMetrics.Text

attribute [local instance (high)] instPowNat Zero.ofOfNat0

def Digits (cs : List Char) : Prop := ∀ c ∈ cs, c.isDigit = true

theorem asciiDigit?_of_isDigit {c : Char} (digit : c.isDigit = true) :
    asciiDigit? c = some (c.toNat - '0'.toNat) := by
  have within : '0' ≤ c ∧ c ≤ '9' := by
    simpa [Char.isDigit, Char.le_def, UInt32.le_iff_toNat_le] using digit
  rw [asciiDigit?, if_pos within]
  rfl

theorem natural?_digits {cs : List Char} (nonempty : cs ≠ []) (digits : Digits cs) :
    natural? cs = some (Nat.ofDigitChars 10 cs 0) := by
  have read : cs.mapM asciiDigit? = some (cs.map fun c => c.toNat - '0'.toNat) := by
    clear nonempty
    induction cs with
    | nil => rfl
    | cons c rest ih =>
      obtain ⟨first, others⟩ := List.forall_mem_cons.mp digits
      simp [asciiDigit?_of_isDigit first, ih others]
  rw [natural?, read, if_neg (by simpa using nonempty), Option.map_some, ofDigits, List.foldl_map,
    Nat.ofDigitChars]

theorem isDigit_of_asciiDigit? {c : Char} {d : Nat} (read : asciiDigit? c = some d) :
    c.isDigit = true := by
  unfold asciiDigit? at read
  split at read
  · rename_i within
    simpa [Char.isDigit, Char.le_def, UInt32.le_iff_toNat_le] using within
  · cases read

theorem digits_of_mapM {cs : List Char} {values : List Nat}
    (read : cs.mapM asciiDigit? = some values) : Digits cs := by
  induction cs generalizing values with
  | nil => exact List.forall_mem_nil _
  | cons c rest ih =>
    simp only [List.mapM_cons, Option.bind_eq_bind, Option.bind_eq_some_iff] at read
    obtain ⟨_, first, _, others, -⟩ := read
    exact List.forall_mem_cons.mpr ⟨isDigit_of_asciiDigit? first, ih others⟩

theorem natural?_eq_some_iff {cs : List Char} {n : Nat} :
    natural? cs = some n ↔ cs ≠ [] ∧ Digits cs ∧ n = Nat.ofDigitChars 10 cs 0 := by
  constructor
  · intro read
    have present : cs ≠ [] := by
      rintro rfl
      cases read
    have each := read
    rw [natural?, if_neg (by simpa using present)] at each
    obtain ⟨_, each, -⟩ := Option.map_eq_some_iff.mp each
    rw [natural?_digits present (digits_of_mapM each), Option.some.injEq] at read
    exact ⟨present, digits_of_mapM each, read.symm⟩
  · rintro ⟨present, digits, rfl⟩
    exact natural?_digits present digits

structure Numeral (width : Nat) (cs : List Char) (n : Nat) : Prop where
  length : cs.length = width
  digits : Digits cs
  value : n = Nat.ofDigitChars 10 cs 0

theorem Numeral.natural? {width n : Nat} {cs : List Char} (numeral : Numeral width cs n)
    (positive : 0 < width) : natural? cs = some n := by
  have present : cs ≠ [] := by
    rintro rfl
    exact absurd numeral.length (Nat.ne_of_lt positive)
  rw [natural?_digits present numeral.digits, numeral.value]

theorem ofDigitChars_injective {cs others : List Char} (digits : Digits cs)
    (otherDigits : Digits others) (length : cs.length = others.length) {start other : Nat}
    (same : Nat.ofDigitChars 10 cs start = Nat.ofDigitChars 10 others other) :
    cs = others ∧ start = other := by
  -- Behind equal rests stand equal starts, and the first digit is the last one of its start.
  induction cs generalizing others start other with
  | nil =>
    obtain rfl := List.eq_nil_of_length_eq_zero length.symm
    exact ⟨rfl, same⟩
  | cons c rest ih =>
    obtain ⟨c', rest', rfl⟩ := List.exists_cons_of_length_eq_add_one length.symm
    obtain ⟨first, later⟩ := List.forall_mem_cons.mp digits
    obtain ⟨first', later'⟩ := List.forall_mem_cons.mp otherDigits
    rw [Nat.ofDigitChars_cons, Nat.ofDigitChars_cons] at same
    obtain ⟨rests, starts⟩ := ih later later' (Nat.succ.inj length) same
    have bounds (c : Char) (digit : c.isDigit = true) : 48 ≤ c.toNat ∧ c.toNat ≤ 57 := by
      simpa [Char.isDigit, UInt32.le_iff_toNat_le] using digit
    have lower := bounds c first
    have upper := bounds c' first'
    have zero : '0'.toNat = 48 := rfl
    rw [zero] at starts
    have code : c.toNat = c'.toNat := by omega
    exact ⟨by rw [rests, Char.toNat_inj.mp code], by omega⟩

theorem Numeral.unique {width n : Nat} {cs others : List Char} (numeral : Numeral width cs n)
    (other : Numeral width others n) : cs = others :=
  (ofDigitChars_injective numeral.digits other.digits (numeral.length.trans other.length.symm)
    (numeral.value.symm.trans other.value)).1

theorem padded_numeral (width n : Nat) (positive : 0 < width) (fits : n < 10 ^ width) :
    Numeral width (padded width n).toList n := by
  have short : (Nat.toDigits 10 n).length ≤ width :=
    (Nat.length_toDigits_le_iff (by decide) positive).mpr fits
  have spelled : (padded width n).toList =
      List.replicate (width - (Nat.toDigits 10 n).length) '0' ++ Nat.toDigits 10 n := by
    rw [padded, String.toList_ofList, Nat.toString_eq_repr, Nat.toList_repr]
  rw [spelled]
  constructor
  · simp
    omega
  · refine List.forall_mem_append.mpr ⟨fun c member => ?_, fun c member => ?_⟩
    · rw [List.eq_of_mem_replicate member]
      decide
    · exact Nat.isDigit_of_mem_toDigits (by decide) (by decide) member
  · rw [Nat.ofDigitChars_append, Nat.ofDigitChars_replicate_zero, Nat.mul_zero,
      Nat.ofDigitChars_toDigits (by decide) (by decide)]

theorem utf8Size_digit {c : Char} (digit : c.isDigit = true) : c.utf8Size = 1 := by
  have within : '0'.val.toNat ≤ c.val.toNat ∧ c.val.toNat ≤ '9'.val.toNat := by
    simpa [Char.isDigit, UInt32.le_iff_toNat_le] using digit
  rw [Char.utf8Size_eq_one_iff, UInt32.le_iff_toNat_le]
  exact Nat.le_trans within.2 (by decide)

theorem Numeral.utf8Size {width n : Nat} {cs : List Char} (numeral : Numeral width cs n) :
    (cs.map Char.utf8Size).sum = width := by
  rw [List.map_congr_left fun c member => utf8Size_digit (numeral.digits c member), List.map_const',
    List.sum_replicate_nat, Nat.mul_one, numeral.length]

end UsageMetrics.Text

namespace UsageMetrics.Calendar

open UsageMetrics.Text

attribute [local instance (high)] Zero.ofOfNat0

inductive Spelled : List Char → Nat → Nat → Nat → Prop where
  | intro {ys ms ds : List Char} {year month day : Nat} (inYear : Numeral 4 ys year)
      (inMonth : Numeral 2 ms month) (inDay : Numeral 2 ds day) :
      Spelled (ys ++ '-' :: (ms ++ '-' :: ds)) year month day

theorem digits?_numeral {width n : Nat} {cs : List Char} (numeral : Numeral width cs n)
    (positive : 0 < width) (rest : List Char) : digits? width (cs ++ rest) = some (n, rest) := by
  have length := numeral.length
  subst length
  simp [digits?, numeral.natural? positive]

theorem afterYear?_numerals (year : Nat) {month day : Nat} {ms ds : List Char}
    (inMonth : Numeral 2 ms month) (inDay : Numeral 2 ds day) :
    afterYear? year true (ms ++ '-' :: ds) = some (.monthDay year month day) := by
  have last := digits?_numeral inDay (by decide) []
  rw [List.append_nil] at last
  have noWeek : ∀ cs, ms ++ '-' :: ds ≠ 'W' :: cs := by
    intro cs same
    cases ms with
    | nil => cases inMonth.length
    | cons c rest =>
      obtain ⟨rfl, -⟩ := List.cons.inj same
      exact absurd (inMonth.digits 'W' List.mem_cons_self) (by decide)
  rw [afterYear?]
  · simp [digits?_numeral inMonth (by decide), hyphen?, last]
  · exact noWeek

namespace Spelled

variable {cs others : List Char} {year month day : Nat}

theorem length (spelled : Spelled cs year month day) : cs.length = 10 := by
  obtain ⟨inYear, inMonth, inDay⟩ := spelled
  simp [inYear.length, inMonth.length, inDay.length]

theorem unique (spelled : Spelled cs year month day) (other : Spelled others year month day) :
    cs = others := by
  obtain ⟨inYear, inMonth, inDay⟩ := spelled
  obtain ⟨inYear', inMonth', inDay'⟩ := other
  rw [inYear.unique inYear', inMonth.unique inMonth', inDay.unique inDay']

theorem dateParts? (spelled : Spelled cs year month day) :
    dateParts? cs = some (.monthDay year month day) := by
  obtain ⟨inYear, inMonth, inDay⟩ := spelled
  simp [Calendar.dateParts?, digits?_numeral inYear (by decide), afterYear?_numerals _ inMonth inDay]

theorem utf8Size (spelled : Spelled cs year month day) : (cs.map Char.utf8Size).sum = 10 := by
  obtain ⟨inYear, inMonth, inDay⟩ := spelled
  have dash : '-'.utf8Size = 1 := by decide
  simp [inYear.utf8Size, inMonth.utf8Size, inDay.utf8Size, dash]

end Spelled

namespace Day

theorem ofParts_toOption (year month day : Nat) :
    (ofParts year month day).toOption = of? year month day := by
  unfold ofParts
  have bounded (out : year < 1 ∨ 9999 < year ∨ month < 1 ∨ 12 < month) :
      of? year month day = none := by
    rw [of?, dif_neg]
    simp only [isDay, Bool.and_eq_true, decide_eq_true_eq]
    omega
  split
  · rw [bounded (by omega)]
    rfl
  · split
    · rw [bounded (by omega)]
      rfl
    · cases of? year month day <;> rfl

/-- Whatever follows it, a date is read as the day that its digits name. -/
theorem ofIso?_spelled {s : String} {year month day : Nat}
    (spelled : Spelled (s.toList.take 10) year month day) : ofIso? s = of? year month day := by
  rw [ofIso?, ofDateText, spelled.utf8Size, spelled.dateParts?]
  exact ofParts_toOption year month day

theorem iso_spelled (d : Day) : Spelled d.iso.toList d.year d.month d.day := by
  obtain ⟨-, -, toLast, -, fits⟩ := d.bounds
  have year := d.year_le
  have short := daysInMonth_le d.year d.month
  have text : d.iso.toList = (padded 4 d.year).toList ++ '-' ::
      ((padded 2 d.month).toList ++ '-' :: (padded 2 d.day).toList) := by
    simp [iso]
  rw [text]
  exact ⟨padded_numeral 4 _ (by decide) (by omega), padded_numeral 2 _ (by decide) (by omega),
    padded_numeral 2 _ (by decide) (by omega)⟩

theorem ofIso?_iso (d : Day) : ofIso? d.iso = some d := by
  have spelled := d.iso_spelled
  rw [← List.take_of_length_le (Nat.le_of_eq spelled.length)] at spelled
  rw [ofIso?_spelled spelled, of?_eq_some]

end Day

end UsageMetrics.Calendar
