import UsageMetrics.Proofs.Report.Rows

namespace UsageMetrics

open UsageMetrics.Number UsageMetrics.Report

def Window.RankedEntity.figures (r : Window.RankedEntity) : List Int :=
  [r.rank, r.counts.engagedUsers, r.acceptanceRate, r.counts.acceptances, r.counts.suggestions]

def Window.RankedEntity.row (r : Window.RankedEntity) : List (Nat × String × String) :=
  [(1, "n", toString r.rank), (2, "s", r.name), (3, "n", toString r.counts.engagedUsers),
    (4, "n", toString r.acceptanceRate), (5, "n", toString r.counts.acceptances),
    (6, "n", toString r.counts.suggestions)]

namespace Billing

def Costs.columns (c : Costs) : List (Nat × Decimal) :=
  [(2, c.amounts.requests), (3, c.amounts.gross), (4, c.amounts.discount), (5, c.net)]

def Costs.row (c : Costs) : List (Nat × String × String) :=
  c.columns.filterMap fun a =>
    (Workbook.storedNumber? (.ofDecimal a.2)).map fun text => (a.1, "n", text)

def ModelCost.row (m : ModelCost) : List (Nat × String × String) :=
  (1, "s", m.model) :: m.costs.row

def PremiumMetrics.totalLabel (p : PremiumMetrics) : String := "Total (" ++ p.currency ++ ")"

def PremiumMetrics.texts (p : PremiumMetrics) : List String :=
  p.breakdown.map ModelCost.model ++ [p.totalLabel]

def PremiumMetrics.totalRow (p : PremiumMetrics) : List (Nat × String × String) :=
  (1, "s", Workbook.storedText (Workbook.cut p.totalLabel)) :: p.total.row

end Billing

end UsageMetrics

namespace UsageMetrics.Report.Workbook

open UsageMetrics.Number UsageMetrics.Number.Binary64 UsageMetrics.Window UsageMetrics.Billing

def usageTitle (s : Summary) : String :=
  "Copilot usage " ++ s.dateRange.firstLabel ++ " - " ++ s.dateRange.lastLabel

section Cells

theorem shown?_intCell_iff (row column : Nat) (n : Int) (style : Style) :
    (intCell row column n style).shown? = some (column, "n", toString n) ↔ IsExact n := by
  have kind : (contentOfInt n).kind = "n" := by
    unfold contentOfInt
    cases ofInt n <;> rfl
  rw [← storedNumber?_eq_some_iff, ← stored?_contentOfInt, Cell.shown?, intCell, kind]
  cases (contentOfInt n).stored? <;> simp

theorem shown?_textContent_iff (row column : Nat) (s : String) (style : Style) :
    (Cell.mk row column (textContent s) style).shown? = some (column, "s", s) ↔ IsPlain s := by
  rw [← textContent_shows_iff, Cell.shown?]
  cases (textContent s).stored? <;> simp

theorem textCell_ok_iff {row column : Nat} {s : String} {style : Style} {cell : Cell} :
    textCell row column s style = .ok cell ↔
      Printable s ∧ cell = ⟨row, column, textContent s, style⟩ := by
  rw [textCell, contentOfText_eq, Printable]
  cases (s.toList.take longestText).any isForbidden <;> simp [Except.map, @eq_comm _ cell]

theorem textRow_ok_iff {row column : Nat} {s : String} {style : Style} {next : Cell → List Cell}
    {cells : List Cell} :
    (textCell row column s style >>= fun cell => pure (next cell)) = .ok cells ↔
      Printable s ∧ cells = next ⟨row, column, textContent s, style⟩ := by
  rw [bind_ok_iff]
  constructor
  · rintro ⟨cell, named, same⟩
    obtain ⟨printable, rfl⟩ := textCell_ok_iff.mp named
    exact ⟨printable, (Except.ok.inj same).symm⟩
  · rintro ⟨printable, rfl⟩
    exact ⟨_, textCell_ok_iff.mpr ⟨printable, rfl⟩, rfl⟩

theorem shown_costCells (row : Nat) (c : Costs) (style : Style) :
    (costCells row c style).filterMap Cell.shown? = c.row := rfl

end Cells

section Languages

def languageCells (row : Nat) (r : RankedEntity) : List Cell :=
  [intCell row 1 r.rank plain, ⟨row, 2, textContent r.name, plain⟩,
    intCell row 3 r.counts.engagedUsers plain, intCell row 4 r.acceptanceRate plain,
    intCell row 5 r.counts.acceptances plain, intCell row 6 r.counts.suggestions plain]

theorem languageRow_ok_iff {row : Nat} {r : RankedEntity} {cells : List Cell} :
    languageRow row r = .ok cells ↔ Printable r.name ∧ cells = languageCells row r :=
  textRow_ok_iff

theorem row_languageCells (row : Nat) (r : RankedEntity) :
    ∀ c ∈ languageCells row r, c.row = row := by
  simp [languageCells, intCell]

theorem languageCells_shown_iff (row : Nat) (r : RankedEntity) :
    (languageCells row r).filterMap Cell.shown? = r.row ↔
      IsPlain r.name ∧ ∀ n ∈ r.figures, IsExact n := by
  have rank : toString r.rank = toString (r.rank : Int) := rfl
  have width : (languageCells row r).length = r.row.length := rfl
  rw [filterMap_eq_iff width, languageCells, RankedEntity.row, RankedEntity.figures, rank]
  simp only [List.forall₂_cons, shown?_intCell_iff, shown?_textContent_iff, List.forall_mem_cons,
    List.Forall₂.nil, List.not_mem_nil, false_implies, implies_true, and_true]
  exact and_left_comm

theorem languageRows_ok_iff {rs : List RankedEntity} {rows : List (List Cell)} :
    rs.zipIdx.mapM (fun a => languageRow (a.2 + 2) a.1) = .ok rows ↔
      (∀ r ∈ rs, Printable r.name) ∧ rows = rs.zipIdx.map fun a => languageCells (a.2 + 2) a.1 :=
  stacked_ok_iff languageRow languageCells fun _ _ _ => languageRow_ok_iff

theorem languageSheet_ok_iff {s : Summary} : (∃ sheet, languageSheet s = .ok sheet) ↔
    ∀ r ∈ s.topLanguages, Printable r.name := by
  constructor
  · rintro ⟨sheet, built⟩
    obtain ⟨rows, mapped, -⟩ := bind_ok_iff.mp built
    exact (languageRows_ok_iff.mp mapped).1
  · intro printable
    exact ⟨_, bind_ok_iff.mpr ⟨_, languageRows_ok_iff.mpr ⟨printable, rfl⟩, rfl⟩⟩

theorem languageSheet_cells {s : Summary} {sheet : Sheet} (built : languageSheet s = .ok sheet) :
    sheet.title = "Top Languages" ∧
      ∃ labels, sheet.cells = headings 1 labels ++ stacked languageCells s.topLanguages := by
  obtain ⟨rows, mapped, same⟩ := bind_ok_iff.mp built
  obtain ⟨-, rfl⟩ := languageRows_ok_iff.mp mapped
  obtain rfl := Except.ok.inj same
  exact ⟨rfl, _, rfl⟩

end Languages

section Models

def modelCells (row : Nat) (m : ModelCost) : List Cell :=
  ⟨row, 1, textContent m.model, plain⟩ :: costCells row m.costs amount

def totalCells (p : PremiumMetrics) : List Cell :=
  ⟨p.breakdown.length + 2, 1, textContent p.totalLabel, strong plain⟩ ::
    costCells (p.breakdown.length + 2) p.total (strong amount)

theorem modelRow_ok_iff {row : Nat} {m : ModelCost} {cells : List Cell} :
    modelRow row m = .ok cells ↔ Printable m.model ∧ cells = modelCells row m :=
  textRow_ok_iff

theorem row_costCells (row : Nat) (c : Costs) (style : Style) :
    ∀ cell ∈ costCells row c style, cell.row = row := by
  simp [costCells, amountCell]

theorem row_modelCells (row : Nat) (m : ModelCost) : ∀ c ∈ modelCells row m, c.row = row :=
  List.forall_mem_cons.mpr ⟨rfl, row_costCells row m.costs amount⟩

theorem row_totalCells (p : PremiumMetrics) : ∀ c ∈ totalCells p, c.row = p.breakdown.length + 2 :=
  List.forall_mem_cons.mpr ⟨rfl, row_costCells _ p.total (strong amount)⟩

theorem modelCells_shown_iff (row : Nat) (m : ModelCost) :
    (modelCells row m).filterMap Cell.shown? = m.row ↔ IsPlain m.model := by
  rw [modelCells, ModelCost.row, ← shown_costCells row m.costs amount, filterMap_cons_eq_iff,
    shown?_textContent_iff]

/-- The label is always a text, since its first character begins neither a formula nor an error. -/
theorem textContent_totalLabel (p : PremiumMetrics) :
    (textContent p.totalLabel).kind = "s" ∧
      (textContent p.totalLabel).stored? = some (storedText (cut p.totalLabel)) := by
  have first : (cut p.totalLabel).toList.head? = some 'T' := by
    rw [cut, String.toList_ofList, PremiumMetrics.totalLabel, String.toList_append,
      String.toList_append]
    rfl
  have value : ¬IsFormula (cut p.totalLabel) := by
    rintro ⟨-, mark⟩
    rw [first] at mark
    exact absurd mark (by decide)
  have known : cut p.totalLabel ∉ errorLiterals := by
    intro member
    have marks : ∀ s ∈ errorLiterals, s.toList.head? = some '#' := by decide
    rw [marks _ member] at first
    exact absurd first (by decide)
  have written : ¬(cut p.totalLabel).isEmpty = true := by
    intro empty
    rw [String.isEmpty_iff.mp empty] at first
    cases first
  refine ⟨(kind_textContent_iff _).mpr ⟨value, known⟩, ?_⟩
  rw [textContent, if_neg value, if_neg known, Content.stored?, if_neg written]

theorem totalCells_shown (p : PremiumMetrics) :
    (totalCells p).filterMap Cell.shown? = p.totalRow := by
  obtain ⟨kind, stored⟩ := textContent_totalLabel p
  rw [totalCells, PremiumMetrics.totalRow,
    ← shown_costCells (p.breakdown.length + 2) p.total (strong amount), filterMap_cons_eq_iff,
    Cell.shown?, stored, kind]
  rfl

theorem modelRows_ok_iff {ms : List ModelCost} {rows : List (List Cell)} :
    ms.zipIdx.mapM (fun a => modelRow (a.2 + 2) a.1) = .ok rows ↔
      (∀ m ∈ ms, Printable m.model) ∧ rows = ms.zipIdx.map fun a => modelCells (a.2 + 2) a.1 :=
  stacked_ok_iff modelRow modelCells fun _ _ _ => modelRow_ok_iff

theorem premiumSheet_ok_iff {p : PremiumMetrics} :
    (∃ sheet, premiumSheet p = .ok sheet) ↔ ∀ text ∈ p.texts, Printable text := by
  rw [PremiumMetrics.texts, List.forall_mem_append, List.forall_mem_map, List.forall_mem_singleton]
  constructor
  · rintro ⟨sheet, built⟩
    obtain ⟨rows, mapped, last⟩ := bind_ok_iff.mp built
    obtain ⟨total, labelled, -⟩ := bind_ok_iff.mp last
    exact ⟨(modelRows_ok_iff.mp mapped).1, (textCell_ok_iff.mp labelled).1⟩
  · rintro ⟨printable, label⟩
    exact ⟨_, bind_ok_iff.mpr ⟨_, modelRows_ok_iff.mpr ⟨printable, rfl⟩,
      bind_ok_iff.mpr ⟨_, textCell_ok_iff.mpr ⟨label, rfl⟩, rfl⟩⟩⟩

theorem premiumSheet_cells {p : PremiumMetrics} {sheet : Sheet}
    (built : premiumSheet p = .ok sheet) : sheet.title = "Premium Requests" ∧
      ∃ labels, sheet.cells =
        headings 1 labels ++ stacked modelCells p.breakdown ++ totalCells p := by
  obtain ⟨rows, mapped, last⟩ := bind_ok_iff.mp built
  obtain ⟨total, labelled, same⟩ := bind_ok_iff.mp last
  obtain ⟨-, rfl⟩ := modelRows_ok_iff.mp mapped
  obtain ⟨-, rfl⟩ := textCell_ok_iff.mp labelled
  obtain rfl := Except.ok.inj same
  exact ⟨rfl, _, rfl⟩

end Models

section Figures

theorem usageSheet_ok_iff {s : Summary} :
    (∃ sheet, usageSheet s = .ok sheet) ↔ Printable (usageTitle s) := by
  constructor
  · rintro ⟨sheet, built⟩
    obtain ⟨top, titled, -⟩ := bind_ok_iff.mp built
    exact (textCell_ok_iff.mp titled).1
  · intro printable
    exact ⟨_, bind_ok_iff.mpr ⟨_, textCell_ok_iff.mpr ⟨printable, rfl⟩, rfl⟩⟩

theorem usageSheet_cells {s : Summary} {sheet : Sheet} (built : usageSheet s = .ok sheet) :
    sheet.title = "Usage Summary" ∧ ∃ labels, sheet.cells =
      [⟨1, 1, textContent (usageTitle s), title⟩] ++ headings 2 labels ++
        (keyFigures s).zipIdx.flatMap fun f =>
          [⟨f.2 + 3, 1, .text f.1.1, plain⟩, intCell (f.2 + 3) 2 f.1.2 figure] := by
  obtain ⟨top, titled, same⟩ := bind_ok_iff.mp built
  obtain ⟨-, rfl⟩ := textCell_ok_iff.mp titled
  obtain rfl := Except.ok.inj same
  exact ⟨rfl, _, rfl⟩

end Figures

section Range

def Fit (cells : List Cell) : Prop := ∀ c ∈ cells, c.content ≠ .oversized

theorem Fit.append_iff {cells others : List Cell} :
    Fit (cells ++ others) ↔ Fit cells ∧ Fit others := List.forall_mem_append

theorem Fit.cons_iff {row column : Nat} {content : Content} {style : Style} {cells : List Cell} :
    Fit (⟨row, column, content, style⟩ :: cells) ↔ content ≠ .oversized ∧ Fit cells :=
  List.forall_mem_cons

theorem fit_nil : Fit [] := List.forall_mem_nil _

theorem fit_iff {sheet : Sheet} : isOversized sheet = false ↔ Fit sheet.cells := by
  simp [isOversized, Fit]

theorem intCell_fits_iff (row column : Nat) (n : Int) (style : Style) :
    (intCell row column n style).content ≠ .oversized ↔ n.natAbs < outOfRange := by
  rw [intCell, ne_eq, contentOfInt_eq_oversized_iff, Nat.not_le]

theorem textContent_fits (s : String) : textContent s ≠ .oversized := by
  unfold textContent
  split
  · simp
  · split <;> simp

theorem fit_headings (row : Nat) (labels : List String) : Fit (headings row labels) := by
  intro c member
  obtain ⟨label, -, rfl⟩ := List.mem_map.mp member
  simp

theorem fit_costCells (row : Nat) (c : Costs) (style : Style) : Fit (costCells row c style) := by
  simp [Fit, costCells, amountCell]

theorem usageSheet_fits_iff {s : Summary} {sheet : Sheet} (built : usageSheet s = .ok sheet) :
    isOversized sheet = false ↔ ∀ f ∈ keyFigures s, f.2.natAbs < outOfRange := by
  obtain ⟨-, labels, content⟩ := usageSheet_cells built
  have top : Fit [⟨1, 1, textContent (usageTitle s), title⟩] :=
    Fit.cons_iff.mpr ⟨textContent_fits (usageTitle s), fit_nil⟩
  have figures : Fit ((keyFigures s).zipIdx.flatMap fun f =>
      [⟨f.2 + 3, 1, .text f.1.1, plain⟩, intCell (f.2 + 3) 2 f.1.2 figure]) ↔
        ∀ f ∈ keyFigures s, f.2.natAbs < outOfRange := by
    rw [Fit, List.forall_mem_flatMap]
    refine Iff.trans (forall₂_congr fun (f : (String × Int) × Nat) _ => ?_) forall_mem_zipIdx
    simp [intCell_fits_iff]
  rw [fit_iff, content, Fit.append_iff, Fit.append_iff, figures]
  exact and_iff_right ⟨top, fit_headings 2 labels⟩

theorem languageSheet_fits_iff {s : Summary} {sheet : Sheet}
    (built : languageSheet s = .ok sheet) : isOversized sheet = false ↔
      ∀ r ∈ s.topLanguages, ∀ n ∈ r.figures, n.natAbs < outOfRange := by
  obtain ⟨-, labels, content⟩ := languageSheet_cells built
  rw [fit_iff, content, Fit.append_iff, and_iff_right (fit_headings 1 labels)]
  refine forall_mem_stacked languageCells fun row r => ?_
  simp [languageCells, RankedEntity.figures, intCell_fits_iff, textContent_fits]

theorem fit_modelCells (row : Nat) (m : ModelCost) : Fit (modelCells row m) := by
  rw [modelCells, Fit.cons_iff]
  exact ⟨textContent_fits m.model, fit_costCells row m.costs amount⟩

theorem fit_totalCells (p : PremiumMetrics) : Fit (totalCells p) := by
  rw [totalCells, Fit.cons_iff]
  exact ⟨textContent_fits p.totalLabel, fit_costCells _ p.total (strong amount)⟩

theorem premiumSheet_fits {p : PremiumMetrics} {sheet : Sheet}
    (built : premiumSheet p = .ok sheet) : isOversized sheet = false := by
  obtain ⟨-, labels, content⟩ := premiumSheet_cells built
  have stack : Fit (stacked modelCells p.breakdown) :=
    (forall_mem_stacked modelCells (p := fun _ => True)
      fun row m => iff_true_intro (fit_modelCells row m)).mpr fun _ _ => trivial
  rw [fit_iff, content, Fit.append_iff, Fit.append_iff]
  exact ⟨⟨fit_headings 1 labels, stack⟩, fit_totalCells p⟩

end Range

end UsageMetrics.Report.Workbook
