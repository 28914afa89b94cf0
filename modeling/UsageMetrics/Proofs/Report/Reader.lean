import Mathlib.Tactic.SplitIfs
import UsageMetrics.Report.Csv

namespace UsageMetrics.Report

open UsageMetrics.Text

inductive Reader.Place where
  | recordStart
  | afterReturn
  | fieldStart
  | bare
  | marked
  /-- After a mark inside marks, which may be the first of two. -/
  | afterMark
  deriving DecidableEq

structure Reader where
  place : Reader.Place
  chars : List Char
  fields : List String
  records : List (List String)

namespace Reader

def atStart (records : List (List String)) : Reader := ⟨.recordStart, [], [], records⟩

def keep (r : Reader) (place : Place) (c : Char) : Reader :=
  { r with place, chars := r.chars ++ [c] }

def held (r : Reader) : List String := r.fields ++ [String.ofList r.chars]

def endField (r : Reader) : Reader := ⟨.fieldStart, [], r.held, r.records⟩

def endRecord (r : Reader) (place : Place) : Reader := ⟨place, [], [], r.records ++ [r.held]⟩

/-- A line without a character is a record without a field. -/
def endBlank (r : Reader) (place : Place) : Reader := ⟨place, [], [], r.records ++ [[]]⟩

def stepBare (r : Reader) (c : Char) : Reader :=
  if c = ',' then r.endField
  else if c = '\n' then r.endRecord .recordStart
  else if c = '\r' then r.endRecord .afterReturn
  else r.keep .bare c

def stepField (r : Reader) (c : Char) : Reader :=
  if c = Quoted.quotationMark then { r with place := .marked } else r.stepBare c

def stepRecord (r : Reader) (c : Char) : Reader :=
  if c = '\n' then r.endBlank .recordStart
  else if c = '\r' then r.endBlank .afterReturn
  else r.stepField c

/-- A line feed ends a record, as does a carriage return with or without one, except inside
marks. -/
def step (r : Reader) (c : Char) : Reader :=
  match r.place with
  | .recordStart => r.stepRecord c
  | .afterReturn => if c = '\n' then { r with place := .recordStart } else r.stepRecord c
  | .fieldStart => r.stepField c
  | .bare => r.stepBare c
  | .marked =>
    if c = Quoted.quotationMark then { r with place := .afterMark } else r.keep .marked c
  | .afterMark => if c = Quoted.quotationMark then r.keep .marked c else r.stepBare c

def run (r : Reader) (cs : List Char) : Reader := cs.foldl step r

def finish (r : Reader) : List (List String) :=
  match r.place with
  | .recordStart => r.records
  | .afterReturn => r.records
  | _ => r.records ++ [r.held]

end Reader

def readRecords (text : String) : List (List String) :=
  ((Reader.atStart []).run text.toList).finish

def Guarded (s : String) : Prop := Table.needsMarks s.toList = true ∨ '\r' ∉ s.toList

instance (s : String) : Decidable (Guarded s) := inferInstanceAs (Decidable (_ ∨ _))

namespace Reader

variable {place : Place} {fields : List String} {records : List (List String)}

theorem run_append (r : Reader) (cs others : List Char) :
    r.run (cs ++ others) = (r.run cs).run others := List.foldl_append

theorem run_cons (r : Reader) (c : Char) (cs : List Char) : r.run (c :: cs) = (r.step c).run cs :=
  rfl

section Steps

variable {chars : List Char}

theorem step_plain (outside : place ≠ .marked) {c : Char}
    (plain : c ≠ ',' ∧ c ≠ '\n' ∧ c ≠ Quoted.quotationMark) (whole : c ≠ '\r') :
    step ⟨place, chars, fields, records⟩ c = ⟨.bare, chars ++ [c], fields, records⟩ := by
  obtain ⟨comma, feed, mark⟩ := plain
  cases place with
  | marked => exact absurd rfl outside
  | _ => simp [step, stepRecord, stepField, stepBare, keep, comma, feed, mark, whole]

theorem step_comma (outside : place ≠ .marked) : step ⟨place, chars, fields, records⟩ ',' =
    ⟨.fieldStart, [], fields ++ [String.ofList chars], records⟩ := by
  cases place with
  | marked => exact absurd rfl outside
  | _ => rfl

theorem step_lineFeed (inRecord : place = .fieldStart ∨ place = .bare ∨ place = .afterMark) :
    step ⟨place, chars, fields, records⟩ '\n' =
      atStart (records ++ [fields ++ [String.ofList chars]]) := by
  rcases inRecord with rfl | rfl | rfl <;> rfl

end Steps

section Fields

theorem plain_of_unmarked {cs : List Char} (unmarked : ¬Table.needsMarks cs = true) {c : Char}
    (member : c ∈ cs) : c ≠ ',' ∧ c ≠ '\n' ∧ c ≠ Quoted.quotationMark := by
  have plain := List.any_eq_false.mp (Bool.not_eq_true _ ▸ unmarked) c member
  simpa [not_or, and_assoc] using plain

theorem run_bare {cs : List Char}
    (plain : ∀ c ∈ cs, c ≠ ',' ∧ c ≠ '\n' ∧ c ≠ Quoted.quotationMark) (unbroken : '\r' ∉ cs)
    (chars : List Char) :
    run ⟨.bare, chars, fields, records⟩ cs = ⟨.bare, chars ++ cs, fields, records⟩ := by
  induction cs generalizing chars with
  | nil => simp [run]
  | cons c rest ih =>
    obtain ⟨first, later⟩ := List.forall_mem_cons.mp plain
    obtain ⟨whole, unbroken⟩ := not_or.mp (mt List.mem_cons.mpr unbroken)
    rw [run_cons, step_plain (by decide) first (Ne.symm whole), ih later unbroken,
      List.append_assoc, List.singleton_append]

theorem run_marked (cs chars : List Char) :
    run ⟨.marked, chars, fields, records⟩ (cs.flatMap Table.double) =
      ⟨.marked, chars ++ cs, fields, records⟩ := by
  induction cs generalizing chars with
  | nil => simp [run]
  | cons c rest ih =>
    have once : run ⟨.marked, chars, fields, records⟩ (Table.double c) =
        ⟨.marked, chars ++ [c], fields, records⟩ := by
      by_cases mark : c = Quoted.quotationMark <;> simp [Table.double, run, step, keep, mark]
    rw [List.flatMap_cons, run_append, once, ih, List.append_assoc, List.singleton_append]

def Place.after (place : Place) (s : String) : Place :=
  if Table.needsMarks s.toList then .afterMark
  else if s.toList = [] then place
  else .bare

theorem run_unbroken (first : place = .recordStart ∨ place = .fieldStart) {cs : List Char}
    (plain : ∀ c ∈ cs, c ≠ ',' ∧ c ≠ '\n' ∧ c ≠ Quoted.quotationMark) (unbroken : '\r' ∉ cs) :
    run ⟨place, [], fields, records⟩ cs =
      ⟨if cs = [] then place else .bare, cs, fields, records⟩ := by
  cases cs with
  | nil => rfl
  | cons c rest =>
    have outside : place ≠ .marked := by rcases first with rfl | rfl <;> decide
    obtain ⟨start, later⟩ := List.forall_mem_cons.mp plain
    obtain ⟨whole, unbroken⟩ := not_or.mp (mt List.mem_cons.mpr unbroken)
    rw [run_cons, step_plain outside start (Ne.symm whole), run_bare later unbroken]
    rfl

theorem run_field (first : place = .recordStart ∨ place = .fieldStart) {s : String}
    (guarded : Guarded s) : run ⟨place, [], fields, records⟩ (Table.field s) =
      ⟨place.after s, s.toList, fields, records⟩ := by
  rw [Table.field, Place.after]
  split
  · have opened : step ⟨place, [], fields, records⟩ Quoted.quotationMark =
        ⟨.marked, [], fields, records⟩ := by
      rcases first with rfl | rfl <;> rfl
    rw [List.singleton_append, List.cons_append, run_cons, opened, run_append, run_marked]
    rfl
  · rename_i unmarked
    exact run_unbroken first (fun c => plain_of_unmarked unmarked) (guarded.resolve_left unmarked)

end Fields

section Lines

theorem line_singleton (s : String) : Table.line [s] = Table.field s ++ ['\n'] := by
  simp [Table.line, List.intercalate]

theorem line_cons (s t : String) (rest : List String) :
    Table.line (s :: t :: rest) = Table.field s ++ ',' :: Table.line (t :: rest) := by
  simp [Table.line, List.intercalate]

theorem after_fieldStart (s : String) : Place.after .fieldStart s = .fieldStart ∨
    Place.after .fieldStart s = .bare ∨ Place.after .fieldStart s = .afterMark := by
  unfold Place.after
  split
  · exact .inr (.inr rfl)
  · split
    · exact .inl rfl
    · exact .inr (.inl rfl)

theorem run_field_comma (first : place = .recordStart ∨ place = .fieldStart) {s : String}
    (guarded : Guarded s) (cs : List Char) :
    run ⟨place, [], fields, records⟩ (Table.field s ++ ',' :: cs) =
      run ⟨.fieldStart, [], fields ++ [s], records⟩ cs := by
  have outside : place.after s ≠ .marked := by
    rcases first with rfl | rfl
    · rw [Place.after]
      split
      · decide
      · split <;> decide
    · rcases after_fieldStart s with inField | inField | inField <;> rw [inField] <;> decide
  rw [run_append, run_field first guarded, run_cons, step_comma outside, String.ofList_toList]

theorem run_line {texts : List String} (some : texts ≠ []) (guarded : ∀ s ∈ texts, Guarded s) :
    run ⟨.fieldStart, [], fields, records⟩ (Table.line texts) =
      atStart (records ++ [fields ++ texts]) := by
  induction texts generalizing fields with
  | nil => exact absurd rfl some
  | cons s rest ih =>
    obtain ⟨first, later⟩ := List.forall_mem_cons.mp guarded
    cases rest with
    | nil =>
      rw [line_singleton, run_append, run_field (.inr rfl) first]
      exact (step_lineFeed (after_fieldStart s)).trans (by rw [String.ofList_toList])
    | cons t rest =>
      rw [line_cons, run_field_comma (.inr rfl) first, ih (List.cons_ne_nil t rest) later,
        List.append_assoc, List.singleton_append]

/-- A line of one field is excepted, as an empty one would be a record without a field. -/
theorem run_record {texts : List String} (wide : 2 ≤ texts.length)
    (guarded : ∀ s ∈ texts, Guarded s) :
    run (atStart records) (Table.line texts) = atStart (records ++ [texts]) := by
  cases texts with
  | nil => exact absurd wide (by decide)
  | cons s rest =>
    cases rest with
    | nil => exact absurd wide (Nat.not_succ_le_self 1)
    | cons t rest =>
      obtain ⟨first, later⟩ := List.forall_mem_cons.mp guarded
      rw [line_cons, atStart, run_field_comma (.inl rfl) first,
        run_line (List.cons_ne_nil t rest) later, List.nil_append, List.singleton_append]

end Lines

section Torn

theorem records_step (r : Reader) (c : Char) : r.records <+: (r.step c).records := by
  obtain ⟨place, chars, fields, records⟩ := r
  cases place <;> simp only [step, stepRecord, stepField, stepBare] <;> split_ifs <;>
    first | exact List.prefix_rfl | exact List.prefix_append _ _

theorem records_run (r : Reader) (cs : List Char) : r.records <+: (r.run cs).records := by
  induction cs generalizing r with
  | nil => exact List.prefix_rfl
  | cons c rest ih => exact (records_step r c).trans (ih (r.step c))

theorem records_finish (r : Reader) : r.records <+: r.finish := by
  unfold finish
  split
  · exact List.prefix_rfl
  · exact List.prefix_rfl
  · exact List.prefix_append _ _

theorem step_return (inRecord : place = .fieldStart ∨ place = .bare) {chars : List Char} :
    step ⟨place, chars, fields, records⟩ '\r' =
      ⟨.afterReturn, [], [], records ++ [fields ++ [String.ofList chars]]⟩ := by
  rcases inRecord with rfl | rfl <;> rfl

/-- A carriage return in a bare field ends its record before the field is whole. -/
theorem run_torn_field (first : (place = .recordStart ∧ fields = []) ∨ place = .fieldStart)
    {s : String} (unguarded : ¬Guarded s) (rest : List Char) :
    ∃ torn, ¬fields ++ [s] <+: torn ∧
      records ++ [torn] <+: (run ⟨place, [], fields, records⟩ (Table.field s ++ rest)).records := by
  obtain ⟨unmarked, broken⟩ := not_or.mp unguarded
  obtain ⟨before, after, parts, unbroken⟩ :=
    List.eq_append_cons_of_mem (Decidable.not_not.mp broken)
  have plain : ∀ c ∈ before, c ≠ ',' ∧ c ≠ '\n' ∧ c ≠ Quoted.quotationMark := by
    intro c member
    refine plain_of_unmarked unmarked ?_
    rw [parts]
    exact List.mem_append_left _ member
  have short : ¬fields ++ [s] <+: fields ++ [String.ofList before] := by
    intro whole
    rw [List.prefix_append_right_inj, List.cons_prefix_cons] at whole
    rw [whole.1, String.toList_ofList] at parts
    simpa using congrArg List.length parts
  have start : place = .recordStart ∨ place = .fieldStart := first.imp And.left id
  rw [Table.field, if_neg unmarked, parts, List.append_assoc, run_append,
    run_unbroken start plain unbroken, List.cons_append, run_cons]
  -- At the start of a record nothing but a line end is a record without a field.
  by_cases blank : before = [] ∧ place = .recordStart
  · obtain ⟨rfl, rfl⟩ := blank
    exact ⟨[], by simp, records_run ⟨.afterReturn, [], [], records ++ [[]]⟩ _⟩
  · refine ⟨fields ++ [String.ofList before], short, ?_⟩
    have inRecord : (if before = [] then place else .bare) = .fieldStart ∨
        (if before = [] then place else .bare) = .bare := by
      split
      · rename_i nothing
        exact .inl (start.resolve_left fun atStart => blank ⟨nothing, atStart⟩)
      · exact .inr rfl
    rw [step_return inRecord]
    exact records_run ⟨.afterReturn, [], [], records ++ [fields ++ [String.ofList before]]⟩ _

theorem run_torn_line (first : (place = .recordStart ∧ fields = []) ∨ place = .fieldStart)
    {texts : List String} (unguarded : ¬∀ s ∈ texts, Guarded s) :
    ∃ torn, torn ≠ fields ++ texts ∧
      records ++ [torn] <+: (run ⟨place, [], fields, records⟩ (Table.line texts)).records := by
  induction texts generalizing place fields with
  | nil => exact absurd (List.forall_mem_nil _) unguarded
  | cons s rest ih =>
    have split : ∃ cs, Table.line (s :: rest) = Table.field s ++ cs := by
      cases rest with
      | nil => exact ⟨_, line_singleton s⟩
      | cons t rest => exact ⟨_, line_cons s t rest⟩
    -- The first unguarded text tears the line; the guarded ones before it are read in full.
    by_cases own : Guarded s
    · have later : ¬∀ s ∈ rest, Guarded s := fun later =>
        unguarded (List.forall_mem_cons.mpr ⟨own, later⟩)
      cases rest with
      | nil => exact absurd (List.forall_mem_nil _) later
      | cons t rest =>
        obtain ⟨torn, differ, read⟩ : ∃ torn, torn ≠ fields ++ [s] ++ t :: rest ∧
            records ++ [torn] <+: (run ⟨.fieldStart, [], fields ++ [s], records⟩
              (Table.line (t :: rest))).records := ih (.inr rfl) later
        rw [List.append_assoc, List.singleton_append] at differ
        rw [line_cons, run_field_comma (first.imp And.left id) own]
        exact ⟨torn, differ, read⟩
    · obtain ⟨cs, starts⟩ := split
      obtain ⟨torn, short, read⟩ := run_torn_field first own cs
      rw [starts]
      refine ⟨torn, ?_, read⟩
      rintro rfl
      exact short ((List.prefix_append_right_inj fields).mpr (by simp))

end Torn

section Texts

variable {lines : List (List String)}

theorem run_records (wide : ∀ texts ∈ lines, 2 ≤ texts.length)
    (guarded : ∀ texts ∈ lines, ∀ s ∈ texts, Guarded s) :
    run (atStart records) (lines.flatMap Table.line) = atStart (records ++ lines) := by
  induction lines generalizing records with
  | nil => simp [run]
  | cons texts rest ih =>
    obtain ⟨firstWide, restWide⟩ := List.forall_mem_cons.mp wide
    obtain ⟨first, later⟩ := List.forall_mem_cons.mp guarded
    rw [List.flatMap_cons, run_append, run_record firstWide first, ih restWide later,
      List.append_assoc, List.singleton_append]

theorem guarded_of_run (wide : ∀ texts ∈ lines, 2 ≤ texts.length)
    (read : (run (atStart records) (lines.flatMap Table.line)).finish = records ++ lines) :
    ∀ texts ∈ lines, ∀ s ∈ texts, Guarded s := by
  induction lines generalizing records with
  | nil => exact List.forall_mem_nil _
  | cons texts rest ih =>
    obtain ⟨firstWide, restWide⟩ := List.forall_mem_cons.mp wide
    rw [List.flatMap_cons, run_append] at read
    by_cases first : ∀ s ∈ texts, Guarded s
    · rw [run_record firstWide first] at read
      refine List.forall_mem_cons.mpr ⟨first, ih restWide (read.trans ?_)⟩
      rw [List.append_assoc, List.singleton_append]
    · -- No later character takes back the record that stands where the line should.
      obtain ⟨torn, differ, begun⟩ : ∃ torn, torn ≠ [] ++ texts ∧
          records ++ [torn] <+: ((atStart records).run (Table.line texts)).records :=
        run_torn_line (.inl ⟨rfl, rfl⟩) first
      have grown := begun.trans ((records_run _ (rest.flatMap Table.line)).trans
        (records_finish _))
      rw [read, List.prefix_append_right_inj, List.cons_prefix_cons] at grown
      exact absurd grown.1 differ

theorem readRecords_ofList (cs : List Char) :
    readRecords (String.ofList cs) = ((atStart []).run cs).finish := by
  rw [readRecords, String.toList_ofList]

/-- A text that is written line by line reads as what was written just if no bare field has a
carriage return. -/
theorem readRecords_lines (wide : ∀ texts ∈ lines, 2 ≤ texts.length) :
    readRecords (String.ofList (lines.flatMap Table.line)) = lines ↔
      ∀ texts ∈ lines, ∀ s ∈ texts, Guarded s := by
  rw [readRecords_ofList]
  constructor
  · exact guarded_of_run wide
  · intro guarded
    rw [run_records wide guarded]
    rfl

end Texts

end Reader

end UsageMetrics.Report
