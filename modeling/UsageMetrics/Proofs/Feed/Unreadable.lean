import UsageMetrics.Feed.Reading
import UsageMetrics.Feed.Telemetry

namespace UsageMetrics.Feed

open UsageMetrics.Number UsageMetrics.Text

inductive Value.Oversized : Value → Prop where
  | float {x : Binary64} {n : Int} (whole : x.toInt? = some n) (large : floatingLimit ≤ n) :
      Oversized (.float x)
  | digits {s : String} (digits : (natural? s.toList).isSome)
      (long : longestNumeral < (s.toList.dropWhile (· = '0')).length) : Oversized (.text s)

def IsFlagWord (word : String) : Prop := word ∈ setWords ∨ word ∈ unsetWords

/-- A text that is a word for a flag only without the blanks around it. -/
def PaddedWord (s : String) : Prop :=
  IsFlagWord (lower (trimBy isBlank s.toList)) ∧ ¬IsFlagWord (lower s.toList)

def Value.ListsTexts (value : Value) : Prop :=
  ∃ texts : List String, value.sequence? = some (texts.map .text)

/-- Values that pass for what a field of the kind holds, or that nobody checks, and that are
refused when they are read. -/
inductive Unreadable : Kind → Value → Prop where
  | day {value : Value} {cause : Cause} (refused : readDay value = .error cause) :
      Unreadable .day value
  | count {value : Value} (large : value.Oversized) : Unreadable .count value
  | flag {s : String} (padded : PaddedWord s) : Unreadable .flag (.text s)
  /-- A record with fields to reset lists those instead of the fields that it claims. -/
  | claim {name : String} {fields : List (String × Kind)} {given : List (String × Value)}
      {value : Value} (intact : malformed fields given = [])
      (claimed : Value.at? given repairedKey = some value) (other : ¬value.ListsTexts) :
      Unreadable (.one (.mk name fields)) (.object given)
  | field {name key : String} {fields : List (String × Kind)} {given : List (String × Value)}
      {kind : Kind} {value : Value} (declared : (key, kind) ∈ fields)
      (present : Value.at? given key = some value) (inner : Unreadable kind value) :
      Unreadable (.one (.mk name fields)) (.object given)
  | element {shape : Shape} {value element : Value} {values : List Value}
      (listed : value.listed? = some values) (member : element ∈ values)
      (record : element.isRecord) (inner : Unreadable (.one shape) element) :
      Unreadable (.many shape) value
  | foreign {shape : Shape} {value : Value} (record : value.isRecord)
      (validated : ∀ given, value ≠ .object given) : Unreadable (.one shape) value

theorem settle_clean {α : Type} {fill : α → Field} {default : Field}
    {read : Option (Except Cause α)} :
    (settle fill default read).2 = [] ↔ ∀ cause, read ≠ some (.error cause) := by
  rcases read with _ | (cause | a) <;> simp [settle]

theorem count?_refused {value : Value} :
    (∃ cause, value.count? = some (.error cause)) ↔ value.Oversized := by
  constructor
  · intro known
    rcases known with ⟨cause, refused⟩
    cases value with
    | integer n =>
      simp only [Value.count?] at refused
      split at refused <;> cases refused
    | float x =>
      simp only [Value.count?] at refused
      cases whole : x.toInt? with
      | none => rw [whole] at refused; cases refused
      | some n =>
        simp only [whole] at refused
        split at refused
        · cases refused
        · split at refused
          · exact .float whole ‹_›
          · cases refused
    | text s =>
      simp only [Value.count?] at refused
      cases digits : natural? s.toList with
      | none => rw [digits] at refused; cases refused
      | some n =>
        simp only [digits, Option.map_some, Option.some.injEq] at refused
        split at refused
        · exact .digits (by rw [digits]; rfl) ‹_›
        · cases refused
    | _ => cases refused
  · intro known
    rcases known with ⟨whole, large⟩ | ⟨digits, long⟩
    · rename_i x n
      have negative : ¬n < 0 := by
        have limit : (0 : Int) ≤ floatingLimit := by decide
        omega
      exact ⟨.oversizedInteger, by simp [Value.count?, whole, negative, large]⟩
    · rename_i s
      obtain ⟨n, read⟩ := Option.isSome_iff_exists.mp digits
      exact ⟨tooLong s, by simp [Value.count?, read, long]⟩

theorem flag?_refused {value : Value} :
    (∃ cause, value.flag? = some (.error cause)) ↔ ∃ s, value = .text s ∧ PaddedWord s := by
  constructor
  · intro known
    rcases known with ⟨cause, refused⟩
    cases value with
    | integer n =>
      simp only [Value.flag?] at refused
      split at refused
      · cases refused
      · split at refused <;> cases refused
    | text s =>
      simp only [Value.flag?] at refused
      split at refused
      · rename_i word
        split at refused
        · cases refused
        · rename_i unset
          split at refused
          · cases refused
          · rename_i unset'
            refine ⟨s, rfl, ?_, ?_⟩
            · simpa [IsFlagWord] using word
            · simpa [IsFlagWord] using And.intro unset unset'
      · cases refused
    | _ => cases refused
  · intro known
    rcases known with ⟨s, rfl, word, other⟩
    refine ⟨.notFlag, ?_⟩
    simp only [IsFlagWord, not_or] at word other
    simp [Value.flag?, word, other.1, other.2]

theorem forall_mem_zipIdx {α : Type} {xs : List α} {P : α → Prop} :
    (∀ indexed ∈ xs.zipIdx, P indexed.1) ↔ ∀ x ∈ xs, P x := by
  constructor
  · intro every x member
    obtain ⟨i, found⟩ := List.mem_iff_getElem?.mp member
    exact every (x, i) (List.mk_mem_zipIdx_iff_getElem?.mpr found)
  · intro every indexed member
    exact every indexed.1 (List.fst_mem_of_mem_zipIdx member)

theorem texts_iff {values : List Value} :
    (∃ texts : List String, values = texts.map .text) ↔ ∀ value ∈ values, ∃ s, value = .text s := by
  constructor
  · intro known value member
    rcases known with ⟨texts, rfl⟩
    obtain ⟨s, -, rfl⟩ := List.mem_map.mp member
    exact ⟨s, rfl⟩
  · intro every
    induction values with
    | nil => exact ⟨[], rfl⟩
    | cons value rest ih =>
      obtain ⟨s, rfl⟩ := every value (by simp)
      obtain ⟨texts, rfl⟩ := ih fun other member => every other (List.mem_cons_of_mem _ member)
      exact ⟨s :: texts, rfl⟩

theorem readText_clean (i : Nat) (value : Value) :
    (∃ s, readText (i, value) = .ok s) ↔ ∃ s, value = .text s := by
  cases value <;> simp [readText]

theorem readRepaired_clean {given : List (String × Value)} :
    (readRepaired given).2 = [] ↔
      ∀ value, Value.at? given repairedKey = some value → value.ListsTexts := by
  unfold readRepaired Value.ListsTexts
  cases claimed : Value.at? given repairedKey with
  | none => simp
  | some value =>
    cases listed : value.sequence? with
    | none => simp [listed]
    | some values =>
      simp only [Option.some.injEq, forall_eq', listed, texts_iff]
      rw [← forall_mem_zipIdx, List.filterMap_eq_nil_iff]
      constructor
      · intro clean indexed member
        have read := clean _ (List.mem_map_of_mem member)
        cases text : readText (indexed.2, indexed.1) with
        | ok s => exact (readText_clean _ _).mp ⟨s, text⟩
        | error issue => simp [text] at read
      · intro texts read member
        obtain ⟨indexed, listed, rfl⟩ := List.mem_map.mp member
        obtain ⟨s, text⟩ := (readText_clean indexed.2 indexed.1).mpr (texts _ listed)
        simp [text]

theorem repairedOf_clean {fields : List (String × Kind)} {given : List (String × Value)} :
    (repairedOf fields given).2 = [] ↔ (malformed fields given = [] →
      ∀ value, Value.at? given repairedKey = some value → value.ListsTexts) := by
  unfold repairedOf
  cases reset : malformed fields given with
  | nil => simp [readRepaired_clean]
  | cons field rest => simp

/-- A record without any field is readable: it stands in for list elements that are no record. -/
theorem not_unreadable_empty (shape : Shape) : ¬Unreadable (.one shape) (.object []) := by
  intro unreadable
  cases unreadable with
  | claim intact claimed other => cases claimed
  | field declared present inner => cases present
  | foreign record validated => exact validated [] rfl

theorem unreadable_record {name : String} {fields : List (String × Kind)}
    {given : List (String × Value)} :
    ¬Unreadable (.one (.mk name fields)) (.object given) ↔
      (repairedOf fields given).2 = [] ∧ ∀ field ∈ fields, ∀ value,
        Value.at? given field.1 = some value → ¬Unreadable field.2 value := by
  rw [repairedOf_clean]
  constructor
  · intro readable
    refine ⟨fun intact value claimed => ?_, fun field declared value present inner => ?_⟩
    · exact Classical.byContradiction fun other => readable (.claim intact claimed other)
    · exact readable (.field declared present inner)
  · intro known unreadable
    rcases known with ⟨claims, every⟩
    cases unreadable with
    | claim intact claimed other => exact other (claims intact _ claimed)
    | field declared present inner => exact every _ declared _ present inner
    | foreign record validated => exact validated given rfl

theorem indexed_issues_clean {elements : List (Record × List Issue)} :
    (elements.zipIdx.flatMap fun (element, i) => element.2.map (Issue.within (toString i))) = [] ↔
      ∀ element ∈ elements, element.2 = [] := by
  simp only [List.flatMap_eq_nil_iff, List.map_eq_nil_iff]
  exact forall_mem_zipIdx (P := fun element : Record × List Issue => element.2 = [])

mutual

theorem Kind.read_clean : ∀ (kind : Kind) (value : Value),
    (kind.read value).2 = [] ↔ ¬Unreadable kind value
  | .text, value => by
    refine iff_of_true ?_ nofun
    cases value <;> rfl
  | .day, value => by
    rw [Kind.read, settle_clean]
    constructor
    · intro accepted unreadable
      cases unreadable with
      | day refused => exact accepted _ (by rw [refused])
    · intro readable cause refused
      exact readable (.day (Option.some.inj refused))
  | .count, value => by
    rw [Kind.read, settle_clean, ← not_exists, count?_refused]
    refine not_congr ⟨.count, fun unreadable => ?_⟩
    cases unreadable with
    | count large => exact large
  | .flag, value => by
    rw [Kind.read, settle_clean, ← not_exists, flag?_refused]
    refine not_congr ⟨?_, ?_⟩
    · intro known
      rcases known with ⟨s, rfl, padded⟩
      exact .flag padded
    · intro unreadable
      cases unreadable with
      | flag padded => exact ⟨_, rfl, padded⟩
  | .one shape, value => by
    by_cases record : value.isRecord
    · rw [Kind.read, if_pos record]
      exact Shape.read_clean shape value record
    · rw [Kind.read, if_neg record]
      refine iff_of_true rfl fun unreadable => ?_
      cases unreadable with
      | claim => exact record rfl
      | field => exact record rfl
      | foreign validated => exact record validated
  | .many shape, value => by
    rw [Kind.read, indexed_issues_clean, List.forall_mem_map]
    constructor
    · intro clean unreadable
      cases unreadable with
      | element listed member record inner =>
        have read := clean _ (by rw [listed]; exact member)
        rw [if_pos record] at read
        exact (Shape.read_clean shape _ record).mp read inner
    · intro readable element member
      by_cases record : element.isRecord
      · rw [if_pos record, Shape.read_clean shape element record]
        cases listed : value.listed? with
        | none => simp [listed] at member
        | some values =>
          rw [listed] at member
          exact fun inner => readable (.element listed member record inner)
      -- An element that is no record is read as an empty one, which is readable.
      · rw [if_neg record, Shape.read_clean shape (.object []) rfl]
        exact not_unreadable_empty shape

theorem Shape.read_clean : ∀ (shape : Shape) (value : Value), value.isRecord →
    ((shape.read value).2 = [] ↔ ¬Unreadable (.one shape) value)
  | .mk name fields, value, record => by
    cases value with
    | object given =>
      rw [unreadable_record, ← readFields_clean fields given]
      simp [Shape.read]
    | snapshot other =>
      exact iff_of_false (by simp [Shape.read]) (not_not_intro (.foreign record nofun))
    | item other =>
      exact iff_of_false (by simp [Shape.read]) (not_not_intro (.foreign record nofun))
    | _ => cases record

theorem readFields_clean : ∀ (fields : List (String × Kind)) (given : List (String × Value)),
    (∀ field ∈ readFields given fields, field.2.2 = []) ↔ ∀ field ∈ fields, ∀ value,
      Value.at? given field.1 = some value → ¬Unreadable field.2 value
  | [], given => by simp [readFields]
  | field :: rest, given => by
    rw [readFields, List.forall_mem_cons, List.forall_mem_cons, readField_clean field given,
      readFields_clean rest given]

theorem readField_clean : ∀ (field : String × Kind) (given : List (String × Value)),
    (readField given field).2.2 = [] ↔ ∀ value,
      Value.at? given field.1 = some value → ¬Unreadable field.2 value
  | (name, kind), given => by
    cases present : Value.at? given name with
    | none => simp [readField, present]
    | some value => simp [readField, present, Kind.read_clean kind value]

end

theorem readDaily_object {given : List (String × Value)} {record : Record} :
    readDaily (.object given) = .ok record ↔
      ¬Unreadable (.one .daily) (.object given) ∧
        (Shape.daily.read (.object given)).1 = record := by
  rw [← Shape.read_clean Shape.daily (.object given) rfl, readDaily]
  · rcases Shape.daily.read (.object given) with ⟨read, _ | ⟨issue, issues⟩⟩ <;> simp
  · nofun

theorem date_read (given : List (String × Value)) :
    (Shape.daily.read (.object given)).1.daily.date =
      ((Value.at? given "date").bind fun value => (readDay value).toOption).join := by
  simp only [Shape.daily, Shape.read, readFields, readField, Record.daily, Record.text,
    Record.find?, Record.fields, List.map_cons, List.lookup_cons_self]
  cases Value.at? given "date" with
  | none => rfl
  | some value =>
    simp only [Kind.read, Option.bind_some]
    cases readDay value <;> rfl

end UsageMetrics.Feed
