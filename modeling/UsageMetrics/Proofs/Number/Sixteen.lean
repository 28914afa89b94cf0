import UsageMetrics.Number.Binary64.Text
import UsageMetrics.Proofs.Number.Ceiling

namespace UsageMetrics.Number

attribute [local instance (high)] instPowNat

section Zeros

variable {n zeros : Nat}

theorem stripZeros_value (fuel n : Nat) :
    (stripZeros fuel n).1 * 10 ^ (stripZeros fuel n).2 = n := by
  induction fuel generalizing n with
  | zero => simp [stripZeros]
  | succ fuel ih =>
    rw [stripZeros]
    split
    · have rest := ih (n / 10)
      simp only [Nat.pow_succ, ← Nat.mul_assoc, rest]
      omega
    · simp

theorem le_stripZeros {fuel : Nat} (positive : 0 < n) (enough : zeros ≤ fuel) :
    zeros ≤ (stripZeros fuel (n * 10 ^ zeros)).2 := by
  induction zeros generalizing fuel with
  | zero => exact Nat.zero_le _
  | succ zeros ih =>
    obtain ⟨fuel, rfl⟩ := Nat.exists_eq_succ_of_ne_zero (show fuel ≠ 0 by omega)
    have shifted : n * 10 ^ (zeros + 1) = n * 10 ^ zeros * 10 := by rw [Nat.pow_succ, Nat.mul_assoc]
    have written : 0 < n * 10 ^ zeros * 10 := by positivity
    rw [shifted, stripZeros, if_pos ⟨written.ne', Nat.mul_mod_left _ _⟩,
      Nat.mul_div_cancel _ (by decide)]
    exact Nat.succ_le_succ (ih (Nat.le_of_succ_le_succ enough))

theorem pow_digitCount_le (positive : 0 < n) : 10 ^ (digitCount n - 1) ≤ n :=
  pow_digitCountWithin_le (n.log2 + 1) positive

theorem one_le_digitCount (n : Nat) : 1 ≤ digitCount n :=
  one_le_digitCountWithin (n.log2 + 1) n

theorem le_digitCount {count : Nat} (many : 10 ^ count ≤ n) : count + 1 ≤ digitCount n :=
  Nat.lt_of_not_le fun few => by
    have below := Nat.lt_of_lt_of_le (lt_pow_digitCount n) (Nat.pow_le_pow_right (by decide) few)
    omega

theorem digitCount_mul_pow (positive : 0 < n) (zeros : Nat) :
    digitCount (n * 10 ^ zeros) = digitCount n + zeros := by
  have first := one_le_digitCount n
  apply Nat.le_antisymm
  · rw [Decimal.digitCount_le_iff (by omega), Nat.pow_add]
    exact Nat.mul_lt_mul_of_pos_right (lt_pow_digitCount n) (Nat.pow_pos (by decide))
  · have many : 10 ^ (digitCount n - 1 + zeros) ≤ n * 10 ^ zeros := by
      rw [Nat.pow_add]
      exact Nat.mul_le_mul_right _ (pow_digitCount_le positive)
    have digits := le_digitCount many
    omega

theorem toDigits_mul_pow (positive : 0 < n) (zeros : Nat) :
    Nat.toDigits 10 (n * 10 ^ zeros) = Nat.toDigits 10 n ++ List.replicate zeros '0' := by
  induction zeros with
  | zero => simp
  | succ zeros ih =>
    have shifted : n * 10 ^ (zeros + 1) = 10 * (n * 10 ^ zeros) + 0 := by
      rw [Nat.pow_succ, Nat.add_zero, Nat.mul_comm 10, Nat.mul_assoc]
    have written : 0 < n * 10 ^ zeros := by positivity
    rw [shifted, ← Nat.toDigits_append_toDigits (by decide) written (by decide), ih,
      List.append_assoc, List.replicate_succ']
    rfl

end Zeros

namespace Binary64.Digits

variable {n : Nat}

theorem leading_ofUnits (positive : 0 < n) (power : Int) :
    (ofUnits (n, power)).leading = power + digitCount n - 1 := by
  have value := stripZeros_value (digitCount n) n
  obtain ⟨count, known⟩ : ∃ count, count = (stripZeros (digitCount n) n).1 := ⟨_, rfl⟩
  obtain ⟨zeros, last⟩ : ∃ zeros, zeros = (stripZeros (digitCount n) n).2 := ⟨_, rfl⟩
  rw [← known, ← last] at value
  have written : 0 < count := Nat.pos_of_mul_pos_right (value ▸ positive)
  have digits := digitCount_mul_pow written zeros
  rw [value] at digits
  simp only [leading, ofUnits, ← known, ← last]
  omega

theorem ofUnits_whole (positive : 0 < n) (zeros : Nat) : ∃ count last : Nat,
    ofUnits (n * 10 ^ zeros, -(zeros : Int)) = ⟨count, last⟩ ∧ count * 10 ^ last = n := by
  have value := stripZeros_value (digitCount (n * 10 ^ zeros)) (n * 10 ^ zeros)
  have digits := digitCount_mul_pow positive zeros
  have stripped := le_stripZeros positive (show zeros ≤ digitCount (n * 10 ^ zeros) by omega)
  obtain ⟨last, split⟩ := Nat.exists_eq_add_of_le' stripped
  rw [split, Nat.pow_add, ← Nat.mul_assoc] at value
  refine ⟨_, last, ?_, Nat.eq_of_mul_eq_mul_right (Nat.pow_pos (by decide)) value⟩
  simp only [ofUnits, split, Digits.mk.injEq, true_and]
  omega

theorem render_ofUnits (positive : 0 < n) (few : n < 10 ^ 16) (zeros : Nat) :
    (ofUnits (n * 10 ^ zeros, -(zeros : Int))).render false = toString n := by
  have leads := leading_ofUnits (show 0 < n * 10 ^ zeros by positivity) (-(zeros : Int))
  have digits := digitCount_mul_pow positive zeros
  have first := one_le_digitCount n
  have most := (Decimal.digitCount_le_iff (by decide)).mpr few
  obtain ⟨count, last, units, whole⟩ := ofUnits_whole positive zeros
  have written : 0 < count := Nat.pos_of_mul_pos_right (whole ▸ positive)
  have text : (toString n).toList = (toString count).toList ++ List.replicate last '0' := by
    rw [Nat.toString_eq_repr, Nat.toString_eq_repr, Nat.toList_repr, Nat.toList_repr, ← whole,
      toDigits_mul_pow written]
  have positional : isPositional (ofUnits (n * 10 ^ zeros, -(zeros : Int))).leading = true := by
    simp only [isPositional, Bool.and_eq_true, decide_eq_true_eq]
    omega
  rw [render, if_pos positional, if_neg (by omega), units, if_neg (by simp),
    ← String.ofList_toList (s := toString n), text]
  simp

theorem mem_render_exponent (keepPoint : Bool) {d : Digits} (large : 16 ≤ d.leading) :
    'e' ∈ (d.render keepPoint).toList := by
  have written : ¬isPositional d.leading = true := by
    simp only [isPositional, Bool.and_eq_true, decide_eq_true_eq]
    omega
  rw [render, if_neg written]
  simp

theorem exists_mark_render (d : Digits) : ∃ c ∈ (d.render true).toList, c = '.' ∨ c = 'e' := by
  by_cases positional : isPositional d.leading = true
  · refine ⟨'.', ?_, .inl rfl⟩
    rw [render, if_pos positional]
    split
    · simp
    · split <;> simp
  · refine ⟨'e', ?_, .inr rfl⟩
    rw [render, if_neg positional]
    simp

end Binary64.Digits

namespace Binary64

theorem mem_withSign {text : String} {c : Char} (negative : Bool) (member : c ∈ text.toList) :
    c ∈ (withSign negative text).toList := by
  cases negative <;> simp [withSign, member]

section Whole

variable {n places : Nat}

theorem log2_mul_pow (positive : 0 < n) (places : Nat) :
    (n * 2 ^ places).log2 = n.log2 + places := by
  rw [Nat.log2_eq_iff (by positivity), Nat.pow_add, Nat.add_right_comm, Nat.pow_add]
  exact ⟨Nat.mul_le_mul_right _ (Nat.log2_self_le positive.ne'),
    Nat.mul_lt_mul_of_pos_right Nat.lt_log2_self (Nat.pow_pos (by decide))⟩

theorem logTwo_whole (positive : 0 < n) (places : Nat) :
    logTwo (n * 2 ^ places) (2 ^ places) = n.log2 := by
  have guess : ((n * 2 ^ places).log2 : Int) - (2 ^ places).log2 = n.log2 := by
    rw [log2_mul_pow positive, Nat.log2_two_pow]
    omega
  have reached : 2 ^ places * 2 ^ (n.log2 : Int).toNat ≤
      n * 2 ^ places * 2 ^ (-(n.log2 : Int)).toNat := by
    rw [Int.toNat_natCast, Int.toNat_neg_natCast, Nat.pow_zero, Nat.mul_one, Nat.mul_comm]
    exact Nat.mul_le_mul_right _ (Nat.log2_self_le positive.ne')
  rw [logTwo, guess, if_pos reached]

theorem pow_ten_le_pow_two : ∀ l < 1024,
    10 ^ (l * 30103 / 100000) ≤ 2 ^ l ∧ 2 ^ (l + 1) ≤ 10 ^ (l * 30103 / 100000 + 2) := by
  decide +kernel

theorem logTen_whole (positive : 0 < n) (size : n.log2 < 1024) (places : Nat) : ∃ l : Nat,
    logTen (n * 2 ^ places) (2 ^ places) = l ∧ 10 ^ l ≤ n ∧ n < 10 ^ (l + 1) := by
  obtain ⟨below, above⟩ := pow_ten_le_pow_two n.log2 size
  obtain ⟨l, guess⟩ : ∃ l, l = n.log2 * 30103 / 100000 := ⟨_, rfl⟩
  rw [← guess] at below above
  have low : 10 ^ l ≤ n := below.trans (Nat.log2_self_le positive.ne')
  have high : n < 10 ^ (l + 1 + 1) := Nat.lt_log2_self.trans_le above
  have reaches (power : Nat) : 2 ^ places * 10 ^ (power : Int).toNat ≤
      n * 2 ^ places * 10 ^ (-(power : Int)).toNat ↔ 10 ^ power ≤ n := by
    rw [Int.toNat_natCast, Int.toNat_neg_natCast, Nat.pow_zero, Nat.mul_one, Nat.mul_comm,
      Nat.mul_le_mul_right_iff (Nat.pow_pos (by decide))]
  have start : logTwo (n * 2 ^ places) (2 ^ places) * 30103 / 100000 = (l : Int) := by
    rw [logTwo_whole positive]
    omega
  have next : (l : Int) + 1 = (l + 1 : Nat) := by omega
  simp only [logTen, start, next, decide_eq_true_eq, reaches]
  -- The guess is the logarithm or one below it.
  by_cases more : 10 ^ (l + 1) ≤ n
  · exact ⟨l + 1, if_pos more, more, high⟩
  · exact ⟨l, by rw [if_neg more, if_pos low], low, Nat.lt_of_not_le more⟩

theorem onGrid_fine (n places zeros : Nat) :
    onGrid (n * 2 ^ places) (2 ^ places) (-(zeros : Int)) = (n * 10 ^ zeros, 0, 2 ^ places) := by
  have unit : 0 < 2 ^ places := Nat.pow_pos (by decide)
  have units : n * 2 ^ places * 10 ^ zeros = n * 10 ^ zeros * 2 ^ places := Nat.mul_right_comm ..
  simp only [onGrid, Int.neg_neg, Int.toNat_natCast, Int.toNat_neg_natCast, Nat.pow_zero,
    Nat.mul_one, units, Nat.mul_div_cancel _ unit, Nat.mul_mod_left]

theorem onGrid_coarse (n places dropped : Nat) :
    (onGrid (n * 2 ^ places) (2 ^ places) dropped).1 = n / 10 ^ dropped := by
  have unit : 0 < 2 ^ places := Nat.pow_pos (by decide)
  simp only [onGrid, Int.toNat_natCast, Int.toNat_neg_natCast, Nat.pow_zero, Nat.mul_one,
    Nat.mul_comm n, Nat.mul_div_mul_left _ _ unit]

variable {significand : Nat} {exponent : Int}

theorem significant_whole (positive : 0 < n) (few : n < 10 ^ 16)
    (value : ratio significand exponent = (n * 2 ^ places, 2 ^ places)) : ∃ zeros : Nat,
    significant 16 significand exponent = (n * 10 ^ zeros, -(zeros : Int)) := by
  have bits : n < 2 ^ 54 := few.trans (by decide)
  have size : n.log2 < 1024 := ((Nat.log2_lt positive.ne').mpr bits).trans (by decide)
  obtain ⟨l, leads, low, -⟩ := logTen_whole positive size places
  have digits : l < 16 := (Nat.pow_lt_pow_iff_right (by decide)).mp (low.trans_lt few)
  have power : (l : Int) - (16 : Nat) + 1 = -((15 - l : Nat) : Int) := by omega
  have unit : 2 * 0 < 2 ^ places := Nat.pow_pos (by decide)
  refine ⟨15 - l, ?_⟩
  simp only [significant, value, leads, power, onGrid_fine, if_pos unit]

theorem significant_large (many : 10 ^ 16 ≤ n) (size : n.log2 < 1024)
    (value : ratio significand exponent = (n * 2 ^ places, 2 ^ places)) :
    10 ^ 15 ≤ (significant 16 significand exponent).1 ∧
      1 ≤ (significant 16 significand exponent).2 := by
  have positive : 0 < n := Nat.lt_of_lt_of_le (by decide) many
  obtain ⟨l, leads, low, high⟩ := logTen_whole positive size places
  have large : 16 < l + 1 := (Nat.pow_lt_pow_iff_right (by decide)).mp (many.trans_lt high)
  obtain ⟨dropped, rfl⟩ := Nat.exists_eq_add_of_le' (show 15 ≤ l by omega)
  have power : ((dropped + 15 : Nat) : Int) - (16 : Nat) + 1 = dropped := by omega
  have digits : 10 ^ 15 ≤ n / 10 ^ dropped := by
    rw [Nat.le_div_iff_mul_le (by positivity), ← Nat.pow_add, Nat.add_comm]
    exact low
  simp only [significant, value, leads, power, onGrid_coarse]
  refine ⟨?_, by omega⟩
  split
  · exact digits
  · split <;> omega

theorem renderSixteen_whole (negative : Bool) (positive : 0 < n) (few : n < 10 ^ 16)
    (written : significand ≠ 0)
    (value : ratio significand exponent = (n * 2 ^ places, 2 ^ places)) :
    (finite negative significand exponent).renderSixteen = withSign negative (toString n) := by
  obtain ⟨zeros, units⟩ := significant_whole positive few value
  rw [renderSixteen, renderWith, if_neg written, units, Digits.render_ofUnits positive few]

theorem mem_renderSixteen_exponent (negative : Bool) (many : 10 ^ 16 ≤ n) (size : n.log2 < 1024)
    (written : significand ≠ 0)
    (value : ratio significand exponent = (n * 2 ^ places, 2 ^ places)) :
    'e' ∈ (finite negative significand exponent).renderSixteen.toList := by
  obtain ⟨digits, power⟩ := significant_large many size value
  have positive : 0 < (significant 16 significand exponent).1 :=
    Nat.lt_of_lt_of_le (by decide) digits
  have leads := Digits.leading_ofUnits positive (significant 16 significand exponent).2
  have count := le_digitCount digits
  rw [Prod.mk.eta] at leads
  have large : 16 ≤ (Digits.ofUnits (significant 16 significand exponent)).leading := by omega
  rw [renderSixteen, renderWith, if_neg written]
  exact mem_withSign negative (Digits.mem_render_exponent false large)

end Whole

section Signed

variable {negative : Bool} {magnitude other : Nat}

theorem isDigit_of_mem {c : Char} (member : c ∈ (toString magnitude).toList) :
    c.isDigit = true := by
  rw [Nat.toString_eq_repr, Nat.toList_repr] at member
  exact Nat.isDigit_of_mem_toDigits (by decide) (by decide) member

theorem isDigit_or_eq_of_mem {c : Char}
    (member : c ∈ (withSign negative (toString magnitude)).toList) :
    c.isDigit = true ∨ c = '-' := by
  cases negative with
  | false => exact .inl (isDigit_of_mem member)
  | true =>
    rw [withSign, if_pos rfl, String.toList_append] at member
    rcases List.mem_append.mp member with sign | digits
    · exact .inr (List.mem_singleton.mp sign)
    · exact .inl (isDigit_of_mem digits)

theorem withSign_inj :
    withSign negative (toString magnitude) = withSign negative (toString other) ↔
      magnitude = other := by
  refine ⟨fun same => ?_, fun same => by rw [same]⟩
  have digits : Nat.toDigits 10 magnitude = Nat.toDigits 10 other := by
    rw [← Nat.toList_repr, ← Nat.toList_repr, ← Nat.toString_eq_repr, ← Nat.toString_eq_repr]
    cases negative with
    | false => exact congrArg String.toList same
    | true =>
      have texts := congrArg String.toList same
      simp only [withSign, if_true, String.toList_append] at texts
      exact List.append_cancel_left texts
  rw [← Nat.ofDigitChars_toDigits (b := 10) (n := magnitude) (by decide) (by decide), digits,
    Nat.ofDigitChars_toDigits (by decide) (by decide)]

theorem toString_eq_withSign (n : Int) :
    toString n = withSign (n < 0) (toString n.natAbs) := by
  rw [Int.toString_eq_repr, Int.repr_eq_if]
  by_cases below : n < 0
  · have magnitude : (-n).toNat = n.natAbs := by omega
    rw [if_neg (by omega), magnitude, decide_eq_true below]
    rfl
  · have magnitude : n.toNat = n.natAbs := by omega
    rw [if_pos (by omega), magnitude, decide_eq_false below]
    rfl

theorem exists_mark (x : Binary64) : ∃ c ∈ x.render.toList, c = '.' ∨ c = 'e' ∨ c = 'n' := by
  cases x with
  | finite negative significand exponent =>
    rw [render, renderWith]
    split
    · exact ⟨'.', mem_withSign negative (by simp), .inl rfl⟩
    · obtain ⟨c, member, mark⟩ :=
        (Digits.ofUnits (shortest significand exponent)).exists_mark_render
      exact ⟨c, mem_withSign negative member, mark.imp_right .inl⟩
  | infinite negative => exact ⟨'n', mem_withSign negative (by simp), .inr (.inr rfl)⟩
  | nan => exact ⟨'n', by simp [render, renderWith], .inr (.inr rfl)⟩

theorem render_ne (x : Binary64) : x.render ≠ withSign negative (toString magnitude) := by
  intro same
  obtain ⟨c, member, mark⟩ := x.exists_mark
  rw [same] at member
  have plain := isDigit_or_eq_of_mem member
  rcases mark with rfl | rfl | rfl <;> exact absurd plain (by decide)

end Signed

end Binary64

end UsageMetrics.Number
