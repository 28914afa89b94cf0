import Mathlib.Data.List.Forall2
import UsageMetrics.Proofs.Calendar.IsoText
import UsageMetrics.Proofs.Feed.Entries
import UsageMetrics.Proofs.Feed.Unreadable

namespace UsageMetrics.Text

theorem toLower_of_isBlank {c : Char} (blank : isBlank c = true) : c.toLower = c := by
  have outside : ∀ code ∈ spaceCodes ++ separatorCodes, ¬(65 ≤ code ∧ code ≤ 90) := by decide
  have listed : c.toNat ∈ spaceCodes ++ separatorCodes := by
    simpa [isBlank, isSpace] using blank
  have small := outside _ listed
  unfold Char.toLower
  split
  · rename_i upper
    exact absurd (by simpa [UInt32.le_iff_toNat_le] using upper) small
  · rfl

theorem trimBy_eq_self {drop : Char → Bool} {cs : List Char} (kept : ∀ c ∈ cs, drop c = false) :
    trimBy drop cs = cs := by
  have whole {cs : List Char} (kept : ∀ c ∈ cs, drop c = false) : cs.dropWhile drop = cs := by
    cases cs with
    | nil => rfl
    | cons c rest => exact List.dropWhile_cons_of_neg (by simp [kept c])
  rw [trimBy, whole kept, whole fun c member => kept c (List.mem_reverse.mp member),
    List.reverse_reverse]

end UsageMetrics.Text

namespace UsageMetrics.Feed

open UsageMetrics.Number UsageMetrics.Text

namespace Value

inductive Counts : Value → Nat → Prop where
  | integer (n : Nat) : Counts (.integer n) n
  | float {x : Binary64} {n : Nat} (whole : x.toInt? = some (n : Int)) : Counts (.float x) n
  | digits {s : String} (present : s ≠ "") (digits : Digits s.toList) :
      Counts (.text s) (Nat.ofDigitChars 10 s.toList 0)

inductive Flags : Value → Bool → Prop where
  | bool (b : Bool) : Flags (.bool b) b
  | zero : Flags (.integer 0) false
  | one : Flags (.integer 1) true
  | set {s : String} (word : lower s.toList ∈ setWords) : Flags (.text s) true
  | unset {s : String} (word : lower s.toList ∈ unsetWords) : Flags (.text s) false

inductive Dates : Value → String → Prop where
  | text (s : String) : Dates (.text s) s
  | day (d : Calendar.Day) : Dates (.day d) d.iso
  | moment (m : Calendar.Moment) : Dates (.moment m) m.day.iso

end Value

/-- A field that holds what its value denotes, or a default if the value denotes nothing. -/
def HoldsOr {α : Type} (denoted : α → Prop) (fill : α → Field) (default field : Field) : Prop :=
  (∃ a, denoted a ∧ field = fill a) ∨ ((∀ a, ¬denoted a) ∧ field = default)

def Kind.Takes : Kind → Value → Prop
  | .text, value => ∃ s, value = .text s
  | .day, _ => True
  | .count, value => ∃ n, value.Counts n
  | .flag, value => ∃ b, value.Flags b
  | .one _, value => ∃ given, value = .object given
  | .many _, value => ∃ elements, value.listed? = some elements

theorem flagWord_unpadded {s : String} (word : IsFlagWord (lower s.toList)) :
    trimBy isBlank s.toList = s.toList := by
  refine trimBy_eq_self fun c member => ?_
  have plain : ∀ word ∈ setWords ++ unsetWords, (word.toList.all fun c => !isBlank c) = true := by
    decide
  have lowered : c.toLower ∈ (lower s.toList).toList := by
    rw [lower, String.toList_ofList]
    exact List.mem_map_of_mem member
  have solid := List.all_eq_true.mp (plain _ (List.mem_append.mpr word)) _ lowered
  cases blank : isBlank c with
  | false => rfl
  | true =>
    rw [toLower_of_isBlank blank, blank] at solid
    cases solid

theorem flag?_eq_ok_iff {value : Value} {b : Bool} :
    value.flag? = some (.ok b) ↔ value.Flags b := by
  constructor
  · intro read
    cases value with
    | bool b' =>
      cases read
      exact .bool b
    | integer n =>
      simp only [Value.flag?] at read
      split at read
      · rename_i zero
        cases read
        exact zero ▸ .zero
      · split at read
        · rename_i one
          cases read
          exact one ▸ .one
        · cases read
    | text s =>
      simp only [Value.flag?] at read
      split at read
      · split at read
        · rename_i word
          cases read
          exact .set (List.contains_iff_mem.mp word)
        · split at read
          · rename_i word
            cases read
            exact .unset (List.contains_iff_mem.mp word)
          · cases read
      · cases read
    | _ => cases read
  · intro known
    cases known with
    | bool => rfl
    | zero => rfl
    | one => rfl
    | set word =>
      have unpadded := flagWord_unpadded (.inl word)
      simp [Value.flag?, unpadded, word]
    | unset word =>
      have unpadded := flagWord_unpadded (.inr word)
      have apart : ∀ other ∈ unsetWords, other ∉ setWords := by decide
      simp [Value.flag?, unpadded, word, apart _ word]

theorem counts_of_count? {value : Value} {result : Except Cause Nat}
    (read : value.count? = some result) :
    ∃ n, value.Counts n ∧ (result = .ok n ∨ ∃ cause, result = .error cause) := by
  cases value with
  | integer i =>
    simp only [Value.count?] at read
    split at read
    · cases read
    · rename_i counted
      obtain ⟨n, rfl⟩ := Int.eq_ofNat_of_zero_le (Int.not_lt.mp counted)
      cases read
      exact ⟨n, .integer n, .inl rfl⟩
  | float x =>
    simp only [Value.count?] at read
    cases whole : x.toInt? with
    | none =>
      rw [whole] at read
      cases read
    | some i =>
      simp only [whole] at read
      split at read
      · cases read
      · rename_i counted
        obtain ⟨n, rfl⟩ := Int.eq_ofNat_of_zero_le (Int.not_lt.mp counted)
        refine ⟨n, .float whole, ?_⟩
        split at read
        · exact .inr ⟨_, (Option.some.inj read).symm⟩
        · exact .inl (Option.some.inj read).symm
  | text s =>
    obtain ⟨n, digits, own⟩ := Option.map_eq_some_iff.mp read
    obtain ⟨present, spelled, rfl⟩ := natural?_eq_some_iff.mp digits
    refine ⟨_, .digits (by simpa using present) spelled, ?_⟩
    split at own
    · exact .inr ⟨_, own.symm⟩
    · exact .inl own.symm
  | _ => cases read

theorem count?_isSome_iff {value : Value} : value.count?.isSome ↔ ∃ n, value.Counts n := by
  constructor
  · intro taken
    obtain ⟨result, read⟩ := Option.isSome_iff_exists.mp taken
    obtain ⟨n, counts, -⟩ := counts_of_count? read
    exact ⟨n, counts⟩
  · rintro ⟨n, counts⟩
    cases counts with
    | integer => simp [Value.count?]
    | float whole =>
      simp only [Value.count?, whole]
      split
      · omega
      · split <;> rfl
    | @digits s present spelled =>
      have read := natural?_digits (by simpa using present) spelled
      simp [Value.count?, read]

theorem exists_flags_iff {value : Value} :
    (∃ b, value.Flags b) ↔ value.flag? = some (.ok true) ∨ value.flag? = some (.ok false) := by
  rw [flag?_eq_ok_iff, flag?_eq_ok_iff, Bool.exists_bool, or_comm]

instance (kind : Kind) (value : Value) : Decidable (kind.Takes value) :=
  match kind, value with
  | .text, value => decidable_of_iff (Kind.text.admits value) (by
      cases value <;> simp [Kind.admits, Kind.Takes])
  | .day, _ => .isTrue trivial
  | .count, value => decidable_of_iff value.count?.isSome count?_isSome_iff
  | .flag, value => decidable_of_iff _ exists_flags_iff.symm
  | .one _, value => decidable_of_iff (value matches .object _) (by
      cases value <;> simp [Kind.Takes])
  | .many _, value => decidable_of_iff value.listed?.isSome Option.isSome_iff_exists

def resetFields (fields : List (String × Kind)) (given : List (String × Value)) : List String :=
  (fields.filter fun field => (Value.at? given field.1).any fun value => ¬field.2.Takes value).map
    Prod.fst

mutual

def Kind.Holds : Kind → Value → Field → Prop
  | .text, value, field =>
    HoldsOr (fun s => value = .text s) (fun s => .text (some s)) (.text none) field
  | .day, value, field => ∃ s, value.Dates s ∧ field = .text (some s)
  | .count, value, field => HoldsOr value.Counts .count (.count 0) field
  | .flag, value, field => HoldsOr value.Flags .flag (.flag false) field
  | .one shape, value, field => ∃ record, shape.Repairs value record ∧ field = .one record
  | .many shape, value, field => ∃ records,
    List.Forall₂ (fun element record => shape.Repairs element record) (value.listed?.getD [])
      records ∧ field = .many records

/-- The record that is made of a value: what is no object makes one without any fields. -/
def Shape.Repairs : Shape → Value → Record → Prop
  | .mk name fields, value, record =>
    (∃ given, value = .object given ∧ FieldsHold given fields record.fields ∧
      (given.lookup repairedKey = none → record.repaired = resetFields fields given)) ∨
    ((∀ given, value ≠ .object given) ∧ record = Shape.blank (.mk name fields))

def FieldsHold (given : List (String × Value)) :
    List (String × Kind) → List (String × Field) → Prop
  | [], held => held = []
  | declared :: rest, held => ∃ field others, held = field :: others ∧
    FieldHolds given declared field ∧ FieldsHold given rest others

def FieldHolds (given : List (String × Value)) : String × Kind → String × Field → Prop
  | (key, kind), held => held.1 = key ∧
    (Value.at? given key = none → held.2 = kind.blank) ∧
    ∀ value, Value.at? given key = some value → kind.Holds value held.2

end

theorem Unreadable.isRecord {shape : Shape} {value : Value}
    (unreadable : Unreadable (.one shape) value) : value.isRecord := by
  cases unreadable with
  | claim => rfl
  | field => rfl
  | foreign record => exact record

theorem object_of_readable {shape : Shape} {value : Value}
    (readable : ¬Unreadable (.one shape) value) (record : value.isRecord) :
    ∃ given, value = .object given := by
  by_contra other
  exact readable (.foreign record fun given same => other ⟨given, same⟩)

/-- Of what can be read at all, nothing but the form tells what is reset. -/
theorem admits_iff_takes {kind : Kind} {value : Value} (readable : ¬Unreadable kind value) :
    kind.admits value = true ↔ kind.Takes value := by
  cases kind with
  | text => cases value <;> simp [Kind.admits, Kind.Takes]
  | day => simp [Kind.admits, Kind.Takes]
  | count => exact count?_isSome_iff
  | flag =>
    rw [Kind.Takes, exists_flags_iff, Kind.admits]
    cases read : value.flag? with
    | none => simp
    | some result =>
      cases result with
      | ok b => cases b <;> simp
      | error cause =>
        obtain ⟨s, rfl, padded⟩ := flag?_refused.mp ⟨cause, read⟩
        exact absurd (.flag padded) readable
  | one shape =>
    refine ⟨object_of_readable readable, ?_⟩
    rintro ⟨given, rfl⟩
    rfl
  | many shape => exact Option.isSome_iff_exists

theorem malformed_eq_resetFields {fields : List (String × Kind)} {given : List (String × Value)}
    (readable : ∀ field ∈ fields, ∀ value,
      Value.at? given field.1 = some value → ¬Unreadable field.2 value) :
    malformed fields given = resetFields fields given := by
  rw [malformed, resetFields]
  refine congrArg _ (List.filter_congr fun field member => ?_)
  cases present : Value.at? given field.1 with
  | none => rfl
  | some value =>
    have admitted := admits_iff_takes (readable field member value present)
    simp [← admitted]

theorem read_one (shape : Shape) (value : Value) :
    ((Kind.one shape).read value).1 = .one (shape.readElement value).1 := by
  rw [Kind.read, Shape.readElement]
  split
  · rfl
  · rw [shape.read_empty]

mutual

theorem Kind.read_holds : ∀ (kind : Kind) (value : Value), ¬Unreadable kind value →
    kind.Holds value (kind.read value).1
  | .text, value, _ => by
    cases value with
    | text s => exact .inl ⟨s, rfl, rfl⟩
    | _ => exact .inr ⟨fun s same => (by cases same), rfl⟩
  | .day, value, readable => by
    cases value with
    | text s => exact ⟨s, .text s, rfl⟩
    | day d => exact ⟨d.iso, .day d, rfl⟩
    | moment m => exact ⟨m.day.iso, .moment m, rfl⟩
    | _ => exact absurd (.day rfl) readable
  | .count, value, readable => by
    rw [Kind.read]
    cases read : value.count? with
    | none =>
      refine .inr ⟨fun n counts => ?_, rfl⟩
      have taken := count?_isSome_iff.mpr ⟨n, counts⟩
      rw [read] at taken
      cases taken
    | some result =>
      -- A count that is too large to be read is unreadable, so it does not get here.
      obtain ⟨n, counts, rfl | ⟨cause, rfl⟩⟩ := counts_of_count? read
      · exact .inl ⟨n, counts, rfl⟩
      · exact absurd (.count (count?_refused.mp ⟨cause, read⟩)) readable
  | .flag, value, readable => by
    rw [Kind.read]
    cases read : value.flag? with
    | none =>
      refine .inr ⟨fun b flags => ?_, rfl⟩
      rw [flag?_eq_ok_iff.mpr flags] at read
      cases read
    | some result =>
      cases result with
      | ok b => exact .inl ⟨b, flag?_eq_ok_iff.mp read, rfl⟩
      | error cause =>
        obtain ⟨s, rfl, padded⟩ := flag?_refused.mp ⟨cause, read⟩
        exact absurd (.flag padded) readable
  | .one shape, value, readable => by
    rw [read_one]
    exact ⟨_, Shape.read_repairs shape value readable, rfl⟩
  | .many shape, value, readable => by
    rw [read_many]
    refine ⟨_, List.forall₂_map_right_iff.mpr (List.forall₂_same.mpr fun element member => ?_), rfl⟩
    refine Shape.read_repairs shape element fun inner => ?_
    cases listed : value.listed? with
    | none =>
      rw [listed] at member
      cases member
    | some elements =>
      rw [listed] at member
      exact readable (.element listed member inner.isRecord inner)

theorem Shape.read_repairs : ∀ (shape : Shape) (value : Value), ¬Unreadable (.one shape) value →
    shape.Repairs value (shape.readElement value).1
  | .mk name fields, value, readable => by
    by_cases record : value.isRecord
    · obtain ⟨given, rfl⟩ := object_of_readable readable record
      obtain ⟨-, inner⟩ := unreadable_record.mp readable
      refine .inl ⟨given, rfl, ?_, fun unclaimed => ?_⟩
      · change FieldsHold given fields ((Shape.mk name fields).read (.object given)).1.fields
        rw [Shape.read_object]
        exact readFields_hold fields given inner
      · exact (repaired_read (.mk name fields) unclaimed).trans (malformed_eq_resetFields inner)
    · rw [Shape.readElement, if_neg record, Shape.read_empty]
      refine .inr ⟨?_, rfl⟩
      rintro given rfl
      exact record rfl

theorem readFields_hold : ∀ (fields : List (String × Kind)) (given : List (String × Value)),
    (∀ field ∈ fields, ∀ value, Value.at? given field.1 = some value →
      ¬Unreadable field.2 value) →
    FieldsHold given fields (fields.map fun field => (field.1, (readField given field).2.1))
  | [], _, _ => rfl
  | field :: rest, given, readable =>
    ⟨_, _, rfl, readField_holds field given (readable field (.head _)),
      readFields_hold rest given fun other member => readable other (.tail _ member)⟩

theorem readField_holds : ∀ (field : String × Kind) (given : List (String × Value)),
    (∀ value, Value.at? given field.1 = some value → ¬Unreadable field.2 value) →
    FieldHolds given field (field.1, (readField given field).2.1)
  | (key, kind), given, readable => by
    refine ⟨rfl, fun absent => ?_, fun value present => ?_⟩
    · rw [readField_absent (key, kind) absent]
    · rw [readField_present (key, kind) present]
      exact Kind.read_holds kind value (readable value present)

end

/-- Whatever an accepted day holds, at any depth, is what its feed says there, or the default where
the feed says nothing of the kind; what was replaced is listed. -/
theorem readDaily_repairs {given : List (String × Value)} {record : Record}
    (accepted : readDaily (.object given) = .ok record) :
    Shape.daily.Repairs (.object given) record := by
  obtain ⟨readable, rfl⟩ := readDaily_object.mp accepted
  exact Shape.read_repairs .daily (.object given) readable

def mistypedDay : List (String × Value) :=
  let model : Value := .object
    [("name", .text "default"), ("is_custom_model", .text "YES"), ("total_chats", .integer (-2))]
  let editor : Value := .object [("name", .integer 7), ("models", .list [model, .text "none"])]
  [("date", .text "2025-05-04"), ("total_active_users", .text "012"),
    ("total_engaged_users", .bool true), ("copilot_ide_code_completions", .list []),
    ("copilot_ide_chat", .object [("total_engaged_users", .integer 3), ("editors", .list [editor])]),
    ("copilot_dotcom_chat", .null)]

theorem mistypedDay_repairs : ∃ record, readDaily (.object mistypedDay) = .ok record ∧
    Shape.daily.Repairs (.object mistypedDay) record := by
  have accepted : (readDaily (.object mistypedDay)).isOk := by decide
  cases made : readDaily (.object mistypedDay) with
  | error rejection =>
    rw [made] at accepted
    cases accepted
  | ok record => exact ⟨record, rfl, readDaily_repairs made⟩

example : resetFields Shape.daily.fields mistypedDay =
    ["total_engaged_users", "copilot_ide_code_completions"] := by decide

end UsageMetrics.Feed
