import UsageMetrics.Proofs.Number.Nearest
import UsageMetrics.Report.SheetView

namespace UsageMetrics.Report.Workbook

open UsageMetrics.Number UsageMetrics.Number.Binary64

attribute [local instance (high)] instPowNat

section Integers

def IsExact (n : Int) : Prop := n.natAbs ≤ 2 ^ 53 ∨ n.natAbs < 10 ^ 16 ∧ n % 2 = 0

instance (n : Int) : Decidable (IsExact n) := inferInstanceAs (Decidable (_ ∨ _))

theorem isExact_iff (n : Int) :
    IsExact n ↔ n.natAbs < 10 ^ 16 ∧ nearestWhole n.natAbs = n.natAbs := by
  unfold IsExact
  by_cases few : n.natAbs < 10 ^ 16
  · rw [nearestWhole_eq_iff (few.trans (by decide))]
    omega
  · omega

theorem contentOfInt_eq_oversized_iff (n : Int) :
    contentOfInt n = .oversized ↔ outOfRange ≤ n.natAbs := by
  rw [← Nat.not_lt, ← ofInt_isFinite_iff]
  unfold contentOfInt
  cases ofInt n <;> simp [Binary64.isFinite]

theorem stored?_contentOfInt (n : Int) : (contentOfInt n).stored? = storedNumber? (ofInt n) := by
  unfold contentOfInt
  cases ofInt n <;> rfl

theorem storedNumber?_of_digits {x : Binary64} {negative : Bool} {magnitude : Nat}
    (finite : x.isFinite = true) (positive : 0 < magnitude)
    (digits : x.renderSixteen = withSign negative (toString magnitude)) :
    storedNumber? x = some (withSign negative (toString magnitude)) := by
  have unmarked : ((withSign negative (toString magnitude)).toList.any
      fun c => c = '.' || c = 'e') = false := by
    refine List.any_eq_false.mpr fun c member mark => ?_
    have plain := isDigit_or_eq_of_mem member
    simp only [Bool.or_eq_true, decide_eq_true_eq] at mark
    rcases mark with rfl | rfl <;> exact absurd plain (by decide)
  have unlike : withSign negative (toString magnitude) ≠ "-0" := by
    intro same
    cases negative with
    | false =>
      have sign : '-' ∈ (toString magnitude).toList := by
        rw [show toString magnitude = "-0" from same]
        simp
      exact absurd (isDigit_of_mem sign) (by decide)
    | true => exact positive.ne' (withSign_inj.mp same)
  rw [storedNumber?, if_pos finite, digits]
  simp only [unmarked, Bool.false_eq_true, if_false, unlike]

theorem storedNumber?_of_exponent {x : Binary64} (mark : 'e' ∈ x.renderSixteen.toList) (n : Int) :
    storedNumber? x ≠ some (toString n) := by
  have marked : (x.renderSixteen.toList.any fun c => c = '.' || c = 'e') = true :=
    List.any_eq_true.mpr ⟨'e', mark, rfl⟩
  rw [storedNumber?, toString_eq_withSign]
  split
  · simp only [marked, if_true]
    intro same
    obtain ⟨read, -, text⟩ := Option.map_eq_some_iff.mp same
    exact read.render_ne text
  · exact (Option.some_ne_none _).symm

theorem storedNumber?_eq_some_iff (n : Int) :
    storedNumber? (ofInt n) = some (toString n) ↔ IsExact n := by
  by_cases zero : n = 0
  · subst zero
    exact iff_of_true (by decide) (.inl (by decide))
  have positive := nearestWhole_pos (Int.natAbs_ne_zero.mpr zero)
  rw [isExact_iff]
  by_cases inside : n.natAbs < outOfRange
  · by_cases few : nearestWhole n.natAbs < 10 ^ 16
    · have stored := storedNumber?_of_digits ((ofInt_isFinite_iff n).mpr inside) positive
        (renderSixteen_ofInt zero few)
      rw [stored, toString_eq_withSign n, Option.some.injEq, withSign_inj]
      exact (and_iff_right_of_imp fun same => by rwa [same] at few).symm
    -- With an exponent the text is read as a floating point number, which gets a mark of its own.
    · have mark := mem_renderSixteen_ofInt zero (Nat.le_of_not_lt few) inside
      refine iff_of_false (storedNumber?_of_exponent mark n) fun exact => few ?_
      rw [exact.2]
      exact exact.1
  · have limit : 10 ^ 16 ≤ outOfRange := Nat.le_trans (by decide) le_outOfRange
    refine iff_of_false ?_ (by omega)
    rw [storedNumber?, if_neg ((ofInt_isFinite_iff n).not.mpr inside)]
    exact (Option.some_ne_none _).symm

end Integers

section Texts

theorem length_lineEnds_le (cs : List Char) : (lineEnds cs).length ≤ cs.length := by
  fun_induction lineEnds cs <;> grind

theorem not_mem_lineEnds (cs : List Char) : '\r' ∉ lineEnds cs := by
  fun_induction lineEnds cs <;> grind

theorem lineEnds_eq_self_iff {cs : List Char} : lineEnds cs = cs ↔ '\r' ∉ cs := by
  constructor
  · intro same
    rw [← same]
    exact not_mem_lineEnds cs
  · intro unbroken
    fun_induction lineEnds cs <;> grind

def cut (s : String) : String := String.ofList (s.toList.take longestText)

def Printable (s : String) : Prop := (s.toList.take longestText).any isForbidden = false

def IsFormula (s : String) : Prop := 1 < s.toList.length ∧ s.toList.head? = some '='

structure IsPlain (s : String) : Prop where
  written : s ≠ ""
  short : s.toList.length ≤ longestText
  unbroken : '\r' ∉ s.toList
  value : ¬IsFormula s
  known : s ∉ errorLiterals

instance (s : String) : Decidable (IsFormula s) := inferInstanceAs (Decidable (_ ∧ _))

instance (s : String) : Decidable (Printable s) := inferInstanceAs (Decidable (_ = _))

theorem isPlain_iff (s : String) : IsPlain s ↔ s ≠ "" ∧ s.toList.length ≤ longestText ∧
    '\r' ∉ s.toList ∧ ¬IsFormula s ∧ s ∉ errorLiterals := by
  constructor
  · rintro ⟨written, short, unbroken, value, known⟩
    exact ⟨written, short, unbroken, value, known⟩
  · rintro ⟨written, short, unbroken, value, known⟩
    exact ⟨written, short, unbroken, value, known⟩

instance (s : String) : Decidable (IsPlain s) := decidable_of_iff _ (isPlain_iff s).symm

def textContent (s : String) : Content :=
  if IsFormula (cut s) then .formula (cut s)
  else if cut s ∈ errorLiterals then .errorLiteral (cut s)
  else .text (cut s)

theorem contentOfText_eq (s : String) : contentOfText s =
    if (s.toList.take longestText).any isForbidden then .error (.unprintable (cut s))
    else .ok (textContent s) := by
  have formula : 1 < (s.toList.take longestText).length ∧
      (s.toList.take longestText).head? = some '=' ↔ IsFormula (cut s) := by
    rw [IsFormula, cut, String.toList_ofList]
  simp only [contentOfText, textContent, formula, ← cut.eq_1, List.contains_iff_mem]
  split
  · rfl
  · split
    · rfl
    · split <;> rfl

theorem cut_eq_self_iff (s : String) : cut s = s ↔ s.toList.length ≤ longestText := by
  rw [← List.take_eq_self_iff, ← String.toList_inj, cut, String.toList_ofList]

theorem kind_textContent_iff (s : String) :
    (textContent s).kind = "s" ↔ ¬IsFormula (cut s) ∧ cut s ∉ errorLiterals := by
  by_cases value : IsFormula (cut s)
  · rw [textContent, if_pos value]
    exact iff_of_false (show "f" ≠ "s" by decide) (fun known => known.1 value)
  · by_cases known : cut s ∈ errorLiterals
    · rw [textContent, if_neg value, if_pos known]
      exact iff_of_false (show "e" ≠ "s" by decide) (fun other => other.2 known)
    · rw [textContent, if_neg value, if_neg known]
      exact iff_of_true rfl ⟨value, known⟩

theorem stored?_text_iff (s : String) : (Content.text (cut s)).stored? = some s ↔
    s ≠ "" ∧ s.toList.length ≤ longestText ∧ '\r' ∉ s.toList := by
  constructor
  · intro stored
    rw [Content.stored?] at stored
    split at stored
    · cases stored
    · rename_i written
      have same : lineEnds (cut s).toList = s.toList := by
        rw [← String.toList_inj.mpr (Option.some.inj stored), storedText, String.toList_ofList]
      have short : s.toList.length ≤ longestText := by
        rw [← same, cut, String.toList_ofList]
        exact (length_lineEnds_le _).trans (List.length_take_le _ _)
      rw [(cut_eq_self_iff s).mpr short] at same written
      exact ⟨by simpa using written, short, lineEnds_eq_self_iff.mp same⟩
  · rintro ⟨written, short, unbroken⟩
    have some : ¬s.isEmpty = true := by simp [written]
    rw [(cut_eq_self_iff s).mpr short, Content.stored?, if_neg some, storedText,
      lineEnds_eq_self_iff.mpr unbroken, String.ofList_toList]

theorem textContent_shows_iff (s : String) :
    (textContent s).kind = "s" ∧ (textContent s).stored? = some s ↔ IsPlain s := by
  rw [kind_textContent_iff]
  constructor
  · rintro ⟨⟨value, known⟩, stored⟩
    rw [textContent, if_neg value, if_neg known, stored?_text_iff] at stored
    obtain ⟨written, short, unbroken⟩ := stored
    rw [(cut_eq_self_iff s).mpr short] at value known
    exact ⟨written, short, unbroken, value, known⟩
  · intro plain
    have text := (stored?_text_iff s).mpr ⟨plain.written, plain.short, plain.unbroken⟩
    rw [textContent]
    rw [(cut_eq_self_iff s).mpr plain.short] at text ⊢
    rw [if_neg plain.value, if_neg plain.known]
    exact ⟨⟨plain.value, plain.known⟩, text⟩

end Texts

end UsageMetrics.Report.Workbook
