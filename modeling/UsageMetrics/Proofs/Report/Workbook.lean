import UsageMetrics.Proofs.Report.ReadBack
import UsageMetrics.Proofs.Report.Sheets
import UsageMetrics.Proofs.Window.Places

namespace UsageMetrics.Report.Workbook

open UsageMetrics.Number.Binary64 UsageMetrics.Window UsageMetrics.Billing UsageMetrics.Feed

def writtenTexts (s : Summary) (premium? : Option PremiumMetrics) : List String :=
  usageTitle s :: s.topLanguages.map RankedEntity.name ++
    premium?.toList.flatMap PremiumMetrics.texts

def writtenIntegers (s : Summary) : List Int :=
  (keyFigures s).map Prod.snd ++ s.topLanguages.flatMap RankedEntity.figures

section Sheets

variable {target : Target} {s : Summary} {premium? : Option PremiumMetrics} {found : List Sheet}

theorem mapM_singleton_ok_iff {p : PremiumMetrics} : [p].mapM premiumSheet = .ok found ↔
    ∃ sheet, premiumSheet p = .ok sheet ∧ found = [sheet] := by
  rw [List.mapM_cons, bind_ok_iff]
  refine exists_congr fun sheet => and_congr_right fun _ => ?_
  exact ⟨fun same => (Except.ok.inj same).symm, fun same => by rw [same]; rfl⟩

theorem sheets_ok_iff : sheets (.found s) (premium?.map .found) = .ok found ↔
    ∃ usage languages extra, usageSheet s = .ok usage ∧ languageSheet s = .ok languages ∧
      premium?.toList.mapM premiumSheet = .ok extra ∧ found = usage :: languages :: extra := by
  constructor
  · intro built
    obtain ⟨given, same, built⟩ := bind_ok_iff.mp built
    obtain rfl := Except.ok.inj same
    obtain ⟨usage, first, built⟩ := bind_ok_iff.mp built
    obtain ⟨languages, second, built⟩ := bind_ok_iff.mp built
    cases premium? with
    | none => exact ⟨usage, languages, [], first, second, rfl, (Except.ok.inj built).symm⟩
    | some p =>
      obtain ⟨given, same, built⟩ := bind_ok_iff.mp built
      obtain rfl := Except.ok.inj same
      obtain ⟨premium, third, built⟩ := bind_ok_iff.mp built
      exact ⟨usage, languages, [premium], first, second,
        mapM_singleton_ok_iff.mpr ⟨premium, third, rfl⟩, (Except.ok.inj built).symm⟩
  · rintro ⟨usage, languages, extra, first, second, third, rfl⟩
    refine bind_ok_iff.mpr ⟨s, rfl, bind_ok_iff.mpr ⟨usage, first,
      bind_ok_iff.mpr ⟨languages, second, ?_⟩⟩⟩
    cases premium? with
    | none =>
      obtain rfl := Except.ok.inj third
      rfl
    | some p =>
      obtain ⟨premium, built, rfl⟩ := mapM_singleton_ok_iff.mp third
      exact bind_ok_iff.mpr ⟨p, rfl, bind_ok_iff.mpr ⟨premium, built, rfl⟩⟩

theorem build_eq {summary : Outcome Summary} {premium? : Option (Outcome PremiumMetrics)}
    (built : sheets summary premium? = .ok found) : build target summary premium? =
      if target.exists? = false then .error (.unknownFile target.path)
      else if found.any isOversized then .error (.operand .oversized) else .ok found := by
  unfold build
  rw [built]
  cases target.exists? <;> rfl

theorem write_ok_iff {summary : Outcome Summary} {premium? : Option (Outcome PremiumMetrics)} :
    write target summary premium? = .ok found ↔
      sheets summary premium? = .ok found ∧ target.exists? = true ∧
        found.any isOversized = false := by
  cases built : sheets summary premium? with
  | error failure =>
    have failed : build target summary premium? = .error failure := by rw [build, built]; rfl
    simp [write, Phase.run, failed, Except.mapError]
  | ok given =>
    rw [write, Phase.run, build_eq built, Except.ok.injEq]
    constructor
    · intro written
      split at written
      · cases written
      · rename_i there
        split at written
        · cases written
        · rename_i fits
          obtain rfl := Except.ok.inj written
          exact ⟨rfl, Bool.eq_true_of_not_eq_false there, Bool.eq_false_of_not_eq_true fits⟩
    · rintro ⟨rfl, there, fits⟩
      rw [if_neg (by rw [there]; decide), if_neg (by rw [fits]; decide)]
      rfl

theorem extra_ok_iff : (∃ extra, premium?.toList.mapM premiumSheet = .ok extra) ↔
    ∀ p ∈ premium?.toList, ∀ text ∈ p.texts, Printable text := by
  cases premium? with
  | none => exact iff_of_true ⟨[], rfl⟩ (List.forall_mem_nil _)
  | some p =>
    rw [Option.toList_some, List.forall_mem_singleton, ← premiumSheet_ok_iff]
    constructor
    · rintro ⟨extra, made⟩
      obtain ⟨sheet, built, -⟩ := mapM_singleton_ok_iff.mp made
      exact ⟨sheet, built⟩
    · rintro ⟨sheet, built⟩
      exact ⟨[sheet], mapM_singleton_ok_iff.mpr ⟨sheet, built, rfl⟩⟩

theorem mem_extra {extra : List Sheet} {sheet : Sheet}
    (made : premium?.toList.mapM premiumSheet = .ok extra) (member : sheet ∈ extra) :
    ∃ p, premium? = some p ∧ premiumSheet p = .ok sheet := by
  cases premium? with
  | none =>
    obtain rfl := Except.ok.inj made
    cases member
  | some p =>
    obtain ⟨other, built, rfl⟩ := mapM_singleton_ok_iff.mp made
    obtain rfl := List.mem_singleton.mp member
    exact ⟨p, rfl, built⟩

theorem extra_fits {extra : List Sheet} (made : premium?.toList.mapM premiumSheet = .ok extra) :
    extra.any isOversized = false := by
  refine List.any_eq_false.mpr fun sheet member => ?_
  obtain ⟨p, -, built⟩ := mem_extra made member
  rw [premiumSheet_fits built]
  decide

theorem exists_write_iff : (∃ found, write target (.found s) (premium?.map .found) = .ok found) ↔
    target.exists? = true ∧ (∀ text ∈ writtenTexts s premium?, Printable text) ∧
      ∀ n ∈ writtenIntegers s, n.natAbs < outOfRange := by
  have texts : (∀ text ∈ writtenTexts s premium?, Printable text) ↔
      Printable (usageTitle s) ∧ (∀ r ∈ s.topLanguages, Printable r.name) ∧
        ∀ p ∈ premium?.toList, ∀ text ∈ p.texts, Printable text := by
    simp only [writtenTexts, List.forall_mem_append, List.forall_mem_cons, List.forall_mem_map,
      List.forall_mem_flatMap, and_assoc]
  have integers : (∀ n ∈ writtenIntegers s, n.natAbs < outOfRange) ↔
      (∀ f ∈ keyFigures s, f.2.natAbs < outOfRange) ∧
        ∀ r ∈ s.topLanguages, ∀ n ∈ r.figures, n.natAbs < outOfRange := by
    simp only [writtenIntegers, List.forall_mem_append, List.forall_mem_map,
      List.forall_mem_flatMap]
  rw [texts, integers, ← usageSheet_ok_iff, ← languageSheet_ok_iff, ← extra_ok_iff]
  constructor
  · rintro ⟨found, written⟩
    obtain ⟨built, there, fits⟩ := write_ok_iff.mp written
    obtain ⟨usage, languages, extra, first, second, third, rfl⟩ := sheets_ok_iff.mp built
    rw [List.any_cons, List.any_cons, Bool.or_eq_false_iff, Bool.or_eq_false_iff] at fits
    exact ⟨there, ⟨⟨usage, first⟩, ⟨languages, second⟩, ⟨extra, third⟩⟩,
      (usageSheet_fits_iff first).mp fits.1, (languageSheet_fits_iff second).mp fits.2.1⟩
  · rintro ⟨there, ⟨⟨usage, first⟩, ⟨languages, second⟩, ⟨extra, third⟩⟩, figures, rows⟩
    refine ⟨usage :: languages :: extra, write_ok_iff.mpr
      ⟨sheets_ok_iff.mpr ⟨usage, languages, extra, first, second, third, rfl⟩, there, ?_⟩⟩
    rw [List.any_cons, List.any_cons, (usageSheet_fits_iff first).mpr figures,
      (languageSheet_fits_iff second).mpr rows, extra_fits third]
    rfl

theorem extra_titles {extra : List Sheet} (made : premium?.toList.mapM premiumSheet = .ok extra) :
    extra.map Sheet.title = premium?.toList.map fun _ => "Premium Requests" := by
  cases premium? with
  | none =>
    obtain rfl := Except.ok.inj made
    rfl
  | some p =>
    obtain ⟨sheet, built, rfl⟩ := mapM_singleton_ok_iff.mp made
    exact congrArg (fun name => [name]) (premiumSheet_cells built).1

theorem sheet_cases {sheet : Sheet}
    (exported : write target (.found s) (premium?.map .found) = .ok found)
    (member : sheet ∈ found) : usageSheet s = .ok sheet ∨ languageSheet s = .ok sheet ∨
      ∃ p, premium? = some p ∧ premiumSheet p = .ok sheet := by
  obtain ⟨usage, languages, extra, first, second, third, rfl⟩ :=
    sheets_ok_iff.mp (write_ok_iff.mp exported).1
  rcases List.mem_cons.mp member with rfl | member
  · exact .inl first
  · rcases List.mem_cons.mp member with rfl | member
    · exact .inr (.inl second)
    · exact .inr (.inr (mem_extra third member))

theorem languageSheet_lists {sheet : Sheet} (built : languageSheet s = .ok sheet) :
    sheet.Lists s.topLanguages RankedEntity.row
      (fun r => IsPlain r.name ∧ ∀ n ∈ r.figures, IsExact n) [] := by
  obtain ⟨-, labels, content⟩ := languageSheet_cells built
  rw [← List.append_nil (headings 1 labels ++ _)] at content
  exact lists_of_stacked content row_languageCells (List.forall_mem_nil _) languageCells_shown_iff

theorem premiumSheet_lists {p : PremiumMetrics} {sheet : Sheet}
    (built : premiumSheet p = .ok sheet) :
    sheet.Lists p.breakdown ModelCost.row (fun m => IsPlain m.model) p.totalRow := by
  obtain ⟨-, labels, content⟩ := premiumSheet_cells built
  rw [← totalCells_shown]
  exact lists_of_stacked content row_modelCells (row_totalCells p) modelCells_shown_iff

end Sheets

/-- A workbook that is written unless a cell cannot hold a text or an integer of it. Of its rows
those are read as they were meant whose names are plain and whose integers are exact. -/
structure Faithful (target : Target) (s : Summary) (premium? : Option PremiumMetrics)
    (exported : Except Failure (List Sheet)) : Prop where
  written : (∃ found, exported = .ok found) ↔
    target.exists? = true ∧ (∀ text ∈ writtenTexts s premium?, Printable text) ∧
      ∀ n ∈ writtenIntegers s, n.natAbs < outOfRange
  titles : ∀ found, exported = .ok found → found.map Sheet.title =
    ["Usage Summary", "Top Languages"] ++ premium?.toList.map fun _ => "Premium Requests"
  languages : ∀ found, exported = .ok found → ∀ sheet ∈ found, sheet.title = "Top Languages" →
    sheet.Lists s.topLanguages RankedEntity.row
      (fun r => IsPlain r.name ∧ ∀ n ∈ r.figures, IsExact n) []
  models : ∀ found, exported = .ok found → ∀ sheet ∈ found, sheet.title = "Premium Requests" →
    ∀ p ∈ premium?, sheet.Lists p.breakdown ModelCost.row (fun m => IsPlain m.model) p.totalRow

/-- Two limits of the file itself are left out: U+FFFE and U+FFFF, which its texts cannot hold, and
sheets of more than 1048576 rows. -/
theorem workbook_faithful (target : Target) (s : Summary) (premium? : Option PremiumMetrics) :
    Faithful target s premium? (write target (.found s) (premium?.map .found)) where
  written := exists_write_iff
  titles found exported := by
    obtain ⟨usage, languages, extra, first, second, third, rfl⟩ :=
      sheets_ok_iff.mp (write_ok_iff.mp exported).1
    rw [List.map_cons, List.map_cons, (usageSheet_cells first).1, (languageSheet_cells second).1,
      extra_titles third]
    rfl
  languages found exported sheet member title := by
    rcases sheet_cases exported member with usage | languages | ⟨p, -, premium⟩
    · exact absurd ((usageSheet_cells usage).1.symm.trans title) (by decide)
    · exact languageSheet_lists languages
    · exact absurd ((premiumSheet_cells premium).1.symm.trans title) (by decide)
  models found exported sheet member title p given := by
    rcases sheet_cases exported member with usage | languages | ⟨q, known, premium⟩
    · exact absurd ((usageSheet_cells usage).1.symm.trans title) (by decide)
    · exact absurd ((languageSheet_cells languages).1.symm.trans title) (by decide)
    · obtain rfl := Option.some.inj (known.symm.trans given)
      exact premiumSheet_lists premium

def workbookTarget : Target := ⟨"exports", "summary.xlsx", true⟩

theorem plainName_kept : ∃ summary found sheet r,
    usageSummary .default (.list [languageDay "a = b"]) = .ok (.found summary) ∧
      write workbookTarget (.found summary) none = .ok found ∧ sheet ∈ found ∧
      sheet.title = "Top Languages" ∧ summary.topLanguages = [r] ∧ r.name = "a = b" ∧
      sheet.read 2 = r.row ∧ sheet.read 3 = [] := by
  have known : (resultOf (usageSummary .default (.list [languageDay "a = b"]))).map
      (fun s => (decide (∀ text ∈ writtenTexts s none, Printable text),
        decide (∀ n ∈ writtenIntegers s, n.natAbs < outOfRange),
        s.topLanguages.map fun r => (r.name, decide (∀ n ∈ r.figures, IsExact n)))) =
          some (true, true, [("a = b", true)]) := by decide +kernel
  obtain ⟨summary, answer, facts⟩ := Option.map_eq_some_iff.mp known
  obtain ⟨texts, facts⟩ := Prod.mk.inj facts
  obtain ⟨integers, rows⟩ := Prod.mk.inj facts
  obtain ⟨r, listed, row⟩ := List.map_eq_singleton_iff.mp rows
  obtain ⟨name, figures⟩ := Prod.mk.inj row
  have faithful := workbook_faithful workbookTarget summary none
  obtain ⟨found, exported⟩ :=
    faithful.written.mpr ⟨rfl, of_decide_eq_true texts, of_decide_eq_true integers⟩
  have titles := faithful.titles found exported
  obtain ⟨sheet, member, title⟩ : ∃ sheet ∈ found, sheet.title = "Top Languages" := by
    rw [← List.mem_map, titles]
    simp
  have lists := faithful.languages found exported sheet member title
  rw [listed] at lists
  refine ⟨summary, found, sheet, r, eq_of_resultOf answer, exported, member, title, listed, name,
    (lists.each 0 r rfl).mpr ⟨?_, of_decide_eq_true figures⟩, lists.last⟩
  rw [name]
  decide

theorem formulaName_evaluated : ∃ summary found sheet r,
    usageSummary .default (.list [languageDay "=1+1"]) = .ok (.found summary) ∧
      write workbookTarget (.found summary) none = .ok found ∧ sheet ∈ found ∧
      sheet.title = "Top Languages" ∧ summary.topLanguages = [r] ∧ r.name = "=1+1" ∧
      (sheet.read 2).lookup 2 = some ("f", "=1+1") ∧ sheet.read 2 ≠ r.row := by
  have names : (resultOf (usageSummary .default (.list [languageDay "=1+1"]))).map
      (fun s => s.topLanguages.map RankedEntity.name) = some ["=1+1"] := by decide +kernel
  have cells : ((resultOf (usageSummary .default (.list [languageDay "=1+1"]))).bind fun s =>
      (write workbookTarget (.found s) none).toOption.map fun found =>
        found.map fun sheet => (sheet.title, (sheet.read 2).lookup 2)) =
      some [("Usage Summary", some ("s", "VALUE")), ("Top Languages", some ("f", "=1+1"))] := by
    decide +kernel
  obtain ⟨summary, answer, rows⟩ := Option.map_eq_some_iff.mp names
  obtain ⟨r, listed, name⟩ := List.map_eq_singleton_iff.mp rows
  rw [answer, Option.bind_some] at cells
  obtain ⟨found, written, texts⟩ := Option.map_eq_some_iff.mp cells
  have formula : ("Top Languages", some ("f", "=1+1")) ∈
      found.map fun sheet => (sheet.title, (sheet.read 2).lookup 2) := by
    rw [texts]
    simp
  obtain ⟨sheet, member, text⟩ := List.mem_map.mp formula
  obtain ⟨title, cell⟩ := Prod.mk.inj text
  refine ⟨summary, found, sheet, r, eq_of_resultOf answer, toOption_eq_some_iff.mp written, member,
    title, listed, name, cell, ?_⟩
  intro same
  rw [same] at cell
  have kind : "s" = "f" := congrArg Prod.fst (Option.some.inj cell)
  exact absurd kind (by decide)

end UsageMetrics.Report.Workbook
