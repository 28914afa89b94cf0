import Mathlib.Data.List.Forall2
import UsageMetrics.Proofs.Feed.Entries
import UsageMetrics.Proofs.Feed.Unreadable

namespace UsageMetrics.Feed

/-- A field that is not given, or whose value has the declared form and is read without an issue. -/
inductive Kind.Settles (kind : Kind) : Option Value → Field → Prop where
  | absent : Settles kind none kind.blank
  | given {value : Value} {field : Field} (admitted : kind.admits value = true)
      (read : kind.read value = (field, [])) : Settles kind (some value) field

def Settled (given : List (String × Value)) : List (String × Kind) → List Field → Prop :=
  List.Forall₂ fun declared field => declared.2.Settles (Value.at? given declared.1) field

def Shape.Reads (shape : Shape) (holds : Record → Prop) (value : Value) : Prop :=
  ∃ given, value = .object given ∧ ∃ r, shape.read value = (r, []) ∧ holds r

section Record

variable {shape : Shape} {holds : Record → Prop} {given : List (String × Value)}
  {declared : List (String × Kind)} {fields : List Field}

theorem Settled.malformed (settled : Settled given declared fields) :
    malformed declared given = [] := by
  rw [Feed.malformed, List.map_eq_nil_iff, List.filter_eq_nil_iff]
  induction settled with
  | nil => exact List.forall_mem_nil _
  | @cons own read _ _ first _ ih =>
    refine List.forall_mem_cons.mpr ⟨?_, ih⟩
    cases found : Value.at? given own.1 with
    | none => simp
    | some value =>
      rw [found] at first
      cases first with
      | given admitted => simp [admitted]

theorem readField_settled {key : String} {kind : Kind} {field : Field}
    (settles : kind.Settles (Value.at? given key) field) :
    (readField given (key, kind)).2 = (field, []) := by
  cases found : Value.at? given key with
  | none =>
    rw [found] at settles
    cases settles
    exact readField_absent (key, kind) found
  | some value =>
    rw [found] at settles
    cases settles with
    | given admitted read => rw [readField_present (key, kind) found, read]

theorem Settled.readFields (settled : Settled given declared fields) :
    declared.map (fun field => (field.1, (readField given field).2.1)) =
        (declared.map Prod.fst).zip fields ∧
      declared.flatMap (fun field => (readField given field).2.2.map (Issue.within field.1)) =
        [] := by
  induction settled with
  | nil => exact ⟨rfl, rfl⟩
  | @cons own read _ _ first _ ih =>
    obtain ⟨key, kind⟩ := own
    simp [readField_settled first, ih]

theorem Settled.read (settled : Settled given shape.fields fields)
    (unclaimed : given.lookup repairedKey = none) :
    shape.read (.object given) = (.mk [] ((shape.fields.map Prod.fst).zip fields), []) := by
  obtain ⟨name, declared⟩ := shape
  change Settled given declared fields at settled
  obtain ⟨read, issues⟩ := settled.readFields
  rw [Shape.read_object, repairedOf_unclaimed declared unclaimed, settled.malformed, read, issues]
  rfl

theorem Settled.reads (settled : Settled given shape.fields fields)
    (unclaimed : given.lookup repairedKey = none)
    (held : holds (.mk [] ((shape.fields.map Prod.fst).zip fields))) :
    shape.Reads holds (.object given) := ⟨given, rfl, _, settled.read unclaimed, held⟩

end Record

namespace Kind.Settles

variable {shape : Shape} {holds : Record → Prop}

theorem text {s : String} : Kind.text.Settles (some (.text s)) (.text (some s)) :=
  .given rfl rfl

theorem flag {b : Bool} : Kind.flag.Settles (some (.bool b)) (.flag b) :=
  .given rfl rfl

theorem count {n : Nat} : Kind.count.Settles (some (.integer n)) (.count n) := by
  have counted : (Value.integer n).count? = some (.ok n) := by simp [Value.count?]
  exact .given (by rw [Kind.admits, counted]; rfl) (by rw [Kind.read, counted]; rfl)

theorem day {s : String} : Kind.day.Settles (some (.text s)) (.text (some s)) := .given rfl rfl

theorem one {value : Value} (reads : shape.Reads holds value) :
    ∃ r, (Kind.one shape).Settles (some value) (.one r) ∧ holds r := by
  obtain ⟨given, rfl, r, read, held⟩ := reads
  exact ⟨r, .given rfl (by simp [Kind.read, Value.isRecord, read]), held⟩

theorem many {values : List Value} (reads : ∀ value ∈ values, shape.Reads holds value) :
    ∃ rs, (Kind.many shape).Settles (some (.list values)) (.many rs) ∧ ∀ r ∈ rs, holds r := by
  have each : ∀ value ∈ values, (shape.readElement value).2 = [] ∧
      holds (shape.readElement value).1 := by
    intro value member
    obtain ⟨given, rfl, r, read, held⟩ := reads value member
    have own : shape.readElement (.object given) = (r, []) := read
    rw [own]
    exact ⟨rfl, held⟩
  refine ⟨values.map fun value => (shape.readElement value).1, .given rfl ?_,
    List.forall_mem_map.mpr fun value member => (each value member).2⟩
  rw [read_many, Value.listed?, Option.getD_some, Prod.mk.injEq]
  refine ⟨rfl, List.flatMap_eq_nil_iff.mpr ?_⟩
  have clean : ∀ issues ∈ values.map fun value => (shape.readElement value).2, issues = [] :=
    List.forall_mem_map.mpr fun value member => (each value member).1
  rw [← forall_mem_zipIdx] at clean
  exact fun indexed member => List.map_eq_nil_iff.mpr (clean indexed member)

end Kind.Settles

end UsageMetrics.Feed
