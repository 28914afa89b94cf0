import UsageMetrics.Proofs.Report.Reader
import UsageMetrics.Requests

namespace UsageMetrics

open UsageMetrics.Report

def Daily.Figures.record (f : Daily.Figures) : List String :=
  [f.day.iso, toString f.activeUsers, toString f.engagedUsers, toString f.completionUsers,
    toString f.ideChatUsers, toString f.dotcomChatUsers, toString f.prSummaryUsers,
    toString f.suggestions, toString f.acceptances, toString f.linesSuggested,
    toString f.linesAccepted, toString f.acceptanceRate, toString f.linesAcceptanceRate,
    toString f.ideChats, toString f.dotcomChats, toString f.chats, toString f.copyEvents,
    toString f.insertionEvents, toString f.prSummaries]

def Window.RankedEntity.record (r : Window.RankedEntity) : List String :=
  [toString r.rank, r.group.label, r.dimension.label, r.name, toString r.counts.engagedUsers,
    toString r.counts.suggestions, toString r.counts.acceptances, toString r.acceptanceRate,
    toString r.counts.chats, toString r.counts.prSummaries]

def Billing.ModelCost.record (m : Billing.ModelCost) : List String :=
  [m.model, m.costs.amounts.requests.render, m.costs.amounts.includedRequests.render,
    m.costs.billedRequests.render, m.costs.amounts.gross.render, m.costs.amounts.discount.render,
    m.costs.net.render, toString m.itemCount]

def Window.Summary.rankedRows (s : Window.Summary) : List Window.RankedEntity :=
  s.topLanguages ++ s.editorStats ++ s.chatEditorStats ++ s.modelUsage

end UsageMetrics

namespace UsageMetrics.Report

open UsageMetrics.Calendar UsageMetrics.Metric UsageMetrics.Number UsageMetrics.Text
open UsageMetrics.Daily UsageMetrics.Feed UsageMetrics.Window UsageMetrics.Billing

/-- An export that fails for nothing but a missing place or too long a number, and of which a
reader finds each record as it was written just if all names are guarded. -/
structure ReadsBack (target : Target) (t : Table) (exported : Except Failure Table)
    (columns : List String) (records : List (List String)) (names : List String) : Prop where
  written : (∃ written, exported = .ok written) ↔
    target.exists? = true ∧ t.hasLongNumeral = false
  count : ∀ written, exported = .ok written → written.rows.length = records.length
  content : ∀ written, exported = .ok written →
    (readRecords written.csv = columns :: records ↔ ∀ name ∈ names, Guarded name)

section Numbers

def Unbroken (cs : List Char) : Prop := '\r' ∉ cs

theorem Unbroken.append {cs others : List Char} (first : Unbroken cs) (second : Unbroken others) :
    Unbroken (cs ++ others) := by
  intro member
  rcases List.mem_append.mp member with left | right
  · exact first left
  · exact second right

theorem Unbroken.sublist {cs others : List Char} (unbroken : Unbroken others)
    (part : cs.Sublist others) : Unbroken cs := fun member => unbroken (part.subset member)

theorem unbroken_replicate {c : Char} (plain : c ≠ '\r') (n : Nat) :
    Unbroken (List.replicate n c) :=
  fun member => plain (List.eq_of_mem_replicate member).symm

theorem unbroken_nat (n : Nat) : Unbroken (toString n).toList := by
  intro member
  rw [Nat.toString_eq_repr, Nat.toList_repr] at member
  exact absurd (Nat.isDigit_of_mem_toDigits (by decide) (by decide) member) (by decide)

theorem unbroken_int (n : Int) : Unbroken (toString n).toList := by
  cases n with
  | ofNat n => exact unbroken_nat n
  | negSucc n =>
    have signed : (toString (Int.negSucc n)).toList = ['-'] ++ (toString (n + 1)).toList :=
      String.toList_append
    rw [signed]
    exact Unbroken.append (by unfold Unbroken; decide) (unbroken_nat (n + 1))

theorem unbroken_padded (width n : Nat) : Unbroken (padded width n).toList := by
  rw [padded, String.toList_ofList]
  exact (unbroken_replicate (by decide) _).append (unbroken_nat n)

theorem unbroken_iso (d : Day) : Unbroken d.iso.toList := by
  have dash : Unbroken "-".toList := by unfold Unbroken; decide
  rw [Day.iso, String.toList_append, String.toList_append, String.toList_append,
    String.toList_append]
  exact ((((unbroken_padded 4 _).append dash).append (unbroken_padded 2 _)).append dash).append
    (unbroken_padded 2 _)

theorem unbroken_render (d : Decimal) : Unbroken d.render.toList := by
  have digits := unbroken_nat d.coefficient
  have before (n : Nat) : Unbroken ((toString d.coefficient).toList.take n) :=
    digits.sublist (List.take_sublist n _)
  have behind (n : Nat) : Unbroken ('.' :: (toString d.coefficient).toList.drop n) :=
    .append (unbroken_replicate (by decide) 1) (digits.sublist (List.drop_sublist n _))
  have sign : Unbroken (if d.negative then "-" else "").toList := by
    cases d.negative <;> simp [Unbroken]
  have mark (power : Int) : Unbroken (if power < 0 then "" else "+").toList := by
    split <;> simp [Unbroken]
  have exponent : Unbroken "E".toList := by simp [Unbroken]
  unfold Decimal.render
  simp only
  split
  · rw [String.toList_append, String.toList_ofList]
    refine sign.append ?_
    split
    · have leading : Unbroken ['0', '.'] := by simp [Unbroken]
      exact (leading.append (unbroken_replicate (by decide) _)).append digits
    · split
      · exact digits
      · exact (before _).append (behind _)
  · simp only [String.toList_append, String.toList_ofList]
    refine (((sign.append ?_).append exponent).append (mark _)).append (unbroken_int _)
    split
    · exact digits
    · exact (before 1).append (behind 1)

end Numbers

section Records

theorem guarded_of_unbroken {s : String} (unbroken : Unbroken s.toList) : Guarded s := .inr unbroken

theorem guarded_nat (n : Nat) : Guarded (toString n) :=
  guarded_of_unbroken (unbroken_nat n)

theorem guarded_int (n : Int) : Guarded (toString n) :=
  guarded_of_unbroken (unbroken_int n)

theorem guarded_iso (d : Day) : Guarded d.iso := guarded_of_unbroken (unbroken_iso d)

theorem guarded_render (d : Decimal) : Guarded d.render :=
  guarded_of_unbroken (unbroken_render d)

theorem guarded_group (group : MetricGroup) : Guarded group.label := by
  cases group <;> decide

theorem guarded_dimension (dimension : Dimension) : Guarded dimension.label := by
  cases dimension <;> decide

theorem guarded_figures (f : Figures) : ∀ s ∈ f.record, Guarded s := by
  simp only [Figures.record, List.forall_mem_cons, guarded_iso, guarded_int, List.not_mem_nil,
    false_implies, implies_true, and_self]

theorem guarded_ranking (r : RankedEntity) : (∀ s ∈ r.record, Guarded s) ↔ Guarded r.name := by
  simp only [RankedEntity.record, List.forall_mem_cons, guarded_nat, guarded_int, guarded_group,
    guarded_dimension, List.not_mem_nil, false_implies, implies_true, true_and, and_true]

theorem guarded_cost (m : ModelCost) : (∀ s ∈ m.record, Guarded s) ↔ Guarded m.model := by
  simp only [ModelCost.record, List.forall_mem_cons, guarded_nat, guarded_render, List.not_mem_nil,
    false_implies, implies_true, and_true]

end Records

def Table.lines (t : Table) : List Char :=
  (t.columns :: t.rows.map fun row => row.map Cell.render).flatMap line

theorem readRecords_csv (t : Table) :
    readRecords t.csv = ((Reader.atStart []).run t.lines).finish :=
  Reader.readRecords_ofList t.lines

section Tables

variable {kind : TableKind} {target : Target} {t : Table}

theorem exportTable_ok_iff {written : Table} : exportTable kind target (.ok t) = .ok written ↔
    (target.exists? = true ∧ t.hasLongNumeral = false) ∧ written = t := by
  unfold exportTable tableAt
  cases target.exists? <;> cases long : t.hasLongNumeral <;>
    simp [long, Phase.run, Except.mapError, Bind.bind, Except.bind, throw, throwThe,
      MonadExceptOf.throw, Pure.pure, Except.pure, @eq_comm _ t]

theorem readsBack_of_rows {records : List (List String)} {names : List String}
    (rows : (t.rows.map fun row => row.map Table.Cell.render) = records)
    (wide : ∀ texts ∈ t.columns :: records, 2 ≤ texts.length)
    (header : ∀ s ∈ t.columns, Guarded s)
    (named : (∀ texts ∈ records, ∀ s ∈ texts, Guarded s) ↔ ∀ name ∈ names, Guarded name) :
    ReadsBack target t (exportTable kind target (.ok t)) t.columns records names where
  written := by simp [exportTable_ok_iff]
  count written exported := by
    obtain ⟨-, rfl⟩ := exportTable_ok_iff.mp exported
    rw [← rows, List.length_map]
  content written exported := by
    obtain ⟨-, rfl⟩ := exportTable_ok_iff.mp exported
    rw [Table.csv, rows, Reader.readRecords_lines wide, List.forall_mem_cons, named]
    exact and_iff_right header

/-- Every export can be read back but for names with a carriage return that nothing else in them
has put between marks. Limits of readers and writers are left out: a reader may refuse a field of
more than 131072 characters, a table may hold no counter from `2 ^ 1024` on, and some writers put
a field with a carriage return between marks after all. -/
theorem exports_readBack (target : Target) :
    (∀ summary : Summary, ReadsBack target (seriesTable summary)
      (exportTable .series target (seriesOf (.found summary))) seriesColumns
      (summary.dailySeries.map Figures.record) []) ∧
    (∀ summary : Summary, ReadsBack target (rankingTable summary)
      (exportTable .rankings target (rankingsOf (.found summary))) rankingColumns
      (summary.rankedRows.map RankedEntity.record) (summary.rankedRows.map RankedEntity.name)) ∧
    (∀ m : PremiumMetrics, ReadsBack target (costTable m)
      (exportTable .costs target (costsOf (.found m))) costColumns
      (m.breakdown.map ModelCost.record) (m.breakdown.map ModelCost.model)) := by
  have series : ∀ s ∈ seriesColumns, Guarded s := by decide
  have rankings : ∀ s ∈ rankingColumns, Guarded s := by decide
  have costs : ∀ s ∈ costColumns, Guarded s := by decide
  refine ⟨fun summary => ?_, fun summary => ?_, fun m => ?_⟩
  · refine readsBack_of_rows (List.map_map.trans rfl) ?_ series ?_
    · simp [Figures.record, seriesTable, seriesColumns]
    · exact iff_of_true (List.forall_mem_map.mpr fun f _ => guarded_figures f)
        (List.forall_mem_nil _)
  · refine readsBack_of_rows (List.map_map.trans rfl) ?_ rankings ?_
    · simp [RankedEntity.record, rankingTable, rankingColumns]
    · simp only [List.forall_mem_map, guarded_ranking]
  · refine readsBack_of_rows (List.map_map.trans rfl) ?_ costs ?_
    · simp [ModelCost.record, costTable, costColumns]
    · simp only [List.forall_mem_map, guarded_cost]

end Tables

def languageDay (name : String) : Value := .object
  [("date", .text "2025-01-01"), ("copilot_ide_code_completions", .object
    [("editors", .list [.object [("name", .text "vim"), ("models", .list [.object
      [("name", .text "m"), ("languages", .list [.object
        [("name", .text name), ("total_code_suggestions", .integer 12)]])]])]])])]

def resultOf {ε α : Type} : Except ε (Outcome α) → Option α
  | .ok (.found result) => some result
  | _ => none

theorem eq_of_resultOf {ε α : Type} {answer : Except ε (Outcome α)} {result : α}
    (known : resultOf answer = some result) : answer = .ok (.found result) := by
  cases answer with
  | error fault => cases known
  | ok outcome =>
    cases outcome with
    | noData n => cases known
    | found other =>
      obtain rfl := Option.some.inj known
      rfl

def exportTarget : Target := ⟨"exports", "rankings.csv", true⟩

/-- A carriage return is no harm beside a comma. -/
theorem commaName_readBack : ∃ summary t,
    usageSummary .default (.list [languageDay "a, b\r\nc"]) = .ok (.found summary) ∧
      exportTable .rankings exportTarget (rankingsOf (.found summary)) = .ok t ∧
      readRecords t.csv = rankingColumns :: summary.rankedRows.map RankedEntity.record := by
  -- The merge sort of a ranking reduces in the kernel alone.
  have known : (resultOf (usageSummary .default (.list [languageDay "a, b\r\nc"]))).map
      (fun s => ((rankingTable s).hasLongNumeral, s.rankedRows.map RankedEntity.name)) =
        some (false, ["a, b\r\nc", "vim", "m"]) := by decide +kernel
  obtain ⟨summary, found, facts⟩ := Option.map_eq_some_iff.mp known
  obtain ⟨short, names⟩ := Prod.mk.inj facts
  have readsBack := (exports_readBack exportTarget).2.1 summary
  obtain ⟨t, exported⟩ := readsBack.written.mpr ⟨rfl, short⟩
  refine ⟨summary, t, eq_of_resultOf found, exported, (readsBack.content t exported).mpr ?_⟩
  rw [names]
  decide

theorem brokenName_torn : ∃ summary t,
    usageSummary .default (.list [languageDay "a\rb"]) = .ok (.found summary) ∧
      exportTable .rankings exportTarget (rankingsOf (.found summary)) = .ok t ∧
      t.rows.length = 3 ∧ (readRecords t.csv).length = 5 ∧
      readRecords t.csv ≠ rankingColumns :: summary.rankedRows.map RankedEntity.record := by
  have known : (resultOf (usageSummary .default (.list [languageDay "a\rb"]))).map
      (fun s => ((rankingTable s).hasLongNumeral, s.rankedRows.length,
        ((Reader.atStart []).run (rankingTable s).lines).finish.length)) = some (false, 3, 5) := by
    decide +kernel
  obtain ⟨summary, found, facts⟩ := Option.map_eq_some_iff.mp known
  obtain ⟨short, facts⟩ := Prod.mk.inj facts
  obtain ⟨rows, records⟩ := Prod.mk.inj facts
  rw [← readRecords_csv] at records
  have exported : exportTable .rankings exportTarget (rankingsOf (.found summary)) =
      .ok (rankingTable summary) := exportTable_ok_iff.mpr ⟨⟨rfl, short⟩, rfl⟩
  refine ⟨summary, _, eq_of_resultOf found, exported, (List.length_map _).trans rows, records, ?_⟩
  intro same
  rw [same, List.length_cons, List.length_map, rows] at records
  cases records

end UsageMetrics.Report
