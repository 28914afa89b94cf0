import Mathlib.Data.List.Basic
import UsageMetrics.Feed.Reading

namespace UsageMetrics.Feed

def SameBeside (key : String) (given others : List (String × Value)) : Prop :=
  ∀ name, name ≠ key → given.lookup name = others.lookup name

namespace SameBeside

variable {key : String}

theorem replaced (key : String) (value other : Value) (before after : List (String × Value)) :
    SameBeside key (before ++ (key, value) :: after) (before ++ (key, other) :: after) := by
  intro name differ
  rw [List.lookup_append, List.lookup_append, List.lookup_cons, List.lookup_cons,
    beq_eq_false_iff_ne.mpr differ]

theorem erased (key : String) (value : Value) (before after : List (String × Value)) :
    SameBeside key (before ++ (key, value) :: after) (before ++ after) := by
  intro name differ
  rw [List.lookup_append, List.lookup_append, List.lookup_cons, beq_eq_false_iff_ne.mpr differ]

end SameBeside

/-- A change to one part of a value: to the value itself, to a declared field of a record or to an
element of a list of records, at any depth. -/
inductive ChangedAt (change : Kind → Value → Value → Prop) : Kind → Value → Value → Prop where
  | here {kind : Kind} {value other : Value} (changed : change kind value other) :
      ChangedAt change kind value other
  | field {name key : String} {fields : List (String × Kind)} {given others : List (String × Value)}
      {value other : Value} (declared : key ∈ fields.map Prod.fst) (own : key ≠ repairedKey)
      (before : given.lookup key = some value) (after : others.lookup key = some other)
      (outside : SameBeside key given others)
      (inner : ∀ kind, (key, kind) ∈ fields → ChangedAt change kind value other) :
      ChangedAt change (.one (.mk name fields)) (.object given) (.object others)
  | element {shape : Shape} {value other old new : Value} (first last : List Value)
      (before : value.listed? = some (first ++ old :: last))
      (after : other.listed? = some (first ++ new :: last))
      (inner : ChangedAt change (.one shape) old new) :
      ChangedAt change (.many shape) value other

namespace ChangedAt

variable {change : Kind → Value → Value → Prop}

theorem inField {name key : String} {fields : List (String × Kind)} {kind : Kind}
    (declared : (fields.filter fun field => field.1 == key) = [(key, kind)])
    (own : key ≠ repairedKey) {value other : Value} (before after : List (String × Value))
    (fresh : before.lookup key = none) (inner : ChangedAt change kind value other) :
    ChangedAt change (.one (.mk name fields)) (.object (before ++ (key, value) :: after))
      (.object (before ++ (key, other) :: after)) := by
  have only (kind' : Kind) (member : (key, kind') ∈ fields) : kind' = kind := by
    have listed : (key, kind') ∈ fields.filter fun field => field.1 == key :=
      List.mem_filter.mpr ⟨member, beq_self_eq_true key⟩
    rw [declared] at listed
    exact (Prod.mk.inj (List.mem_singleton.mp listed)).2
  have listed : (key, kind) ∈ fields :=
    List.mem_of_mem_filter (declared ▸ List.mem_singleton_self _)
  have found (value : Value) : (before ++ (key, value) :: after).lookup key = some value := by
    rw [List.lookup_append, fresh, List.lookup_cons_self]
    rfl
  exact .field (List.mem_map_of_mem listed) own (found value) (found other)
    (.replaced key value other before after) fun kind' member => only kind' member ▸ inner

theorem objects (keeps : ∀ {shape value other}, change (.one shape) value other →
      ∃ given others, value = .object given ∧ other = .object others)
    {shape : Shape} {value other : Value} (changed : ChangedAt change (.one shape) value other) :
    ∃ given others, value = .object given ∧ other = .object others := by
  cases changed with
  | here changed => exact keeps changed
  | field => exact ⟨_, _, rfl, rfl⟩

end ChangedAt

mutual

def Field.mapRepaired (f : List String → List String) : Field → Field
  | .one record => .one (record.mapRepaired f)
  | .many records => .many (mapRepairedAll f records)
  | field => field

def Record.mapRepaired (f : List String → List String) : Record → Record
  | .mk repaired fields => .mk (f repaired) (mapRepairedFields f fields)

def mapRepairedAll (f : List String → List String) : List Record → List Record
  | [] => []
  | record :: rest => record.mapRepaired f :: mapRepairedAll f rest

def mapRepairedFields (f : List String → List String) :
    List (String × Field) → List (String × Field)
  | [] => []
  | field :: rest => mapRepairedField f field :: mapRepairedFields f rest

def mapRepairedField (f : List String → List String) : String × Field → String × Field
  | (name, field) => (name, field.mapRepaired f)

end

section MapRepaired

variable {f : List String → List String}

theorem mapRepairedAll_eq (records : List Record) :
    mapRepairedAll f records = records.map (Record.mapRepaired f) := by
  induction records with
  | nil => rfl
  | cons record rest ih => rw [mapRepairedAll, ih, List.map_cons]

theorem mapRepairedFields_eq (fields : List (String × Field)) :
    mapRepairedFields f fields = fields.map fun field => (field.1, field.2.mapRepaired f) := by
  induction fields with
  | nil => rfl
  | cons field rest ih =>
    obtain ⟨name, field⟩ := field
    rw [mapRepairedFields, mapRepairedField, ih, List.map_cons]

mutual

theorem Field.mapRepaired_id : ∀ field : Field, field.mapRepaired id = field
  | .text _ => rfl
  | .count _ => rfl
  | .flag _ => rfl
  | .one record => by rw [Field.mapRepaired, Record.mapRepaired_id record]
  | .many records => by rw [Field.mapRepaired, mapRepairedAll_id records]

theorem Record.mapRepaired_id : ∀ record : Record, record.mapRepaired id = record
  | .mk repaired fields => by rw [Record.mapRepaired, mapRepairedFields_id fields, id]

theorem mapRepairedAll_id : ∀ records : List Record, mapRepairedAll id records = records
  | [] => rfl
  | record :: rest => by rw [mapRepairedAll, Record.mapRepaired_id record, mapRepairedAll_id rest]

theorem mapRepairedFields_id : ∀ fields : List (String × Field),
    mapRepairedFields id fields = fields
  | [] => rfl
  | field :: rest => by
    rw [mapRepairedFields, mapRepairedField_id field, mapRepairedFields_id rest]

theorem mapRepairedField_id : ∀ field : String × Field, mapRepairedField id field = field
  | (_, field) => by rw [mapRepairedField, Field.mapRepaired_id field]

end

end MapRepaired

theorem readFields_eq (given : List (String × Value)) (fields : List (String × Kind)) :
    readFields given fields = fields.map (readField given) := by
  induction fields with
  | nil => simp only [readFields, List.map_nil]
  | cons field rest ih => rw [readFields, ih, List.map_cons]

theorem readField_fst (given : List (String × Value)) (field : String × Kind) :
    (readField given field).1 = field.1 := by
  obtain ⟨name, kind⟩ := field
  rw [readField]

theorem readField_absent {given : List (String × Value)} (field : String × Kind)
    (absent : Value.at? given field.1 = none) :
    (readField given field).2 = (field.2.blank, []) := by
  obtain ⟨name, kind⟩ := field
  rw [readField, absent]

theorem readField_present {given : List (String × Value)} (field : String × Kind) {value : Value}
    (present : Value.at? given field.1 = some value) :
    (readField given field).2 = field.2.read value := by
  obtain ⟨name, kind⟩ := field
  rw [readField, present]

theorem readField_congr {given others : List (String × Value)} (field : String × Kind)
    (same : Value.at? given field.1 = Value.at? others field.1) :
    (readField given field).2 = (readField others field).2 := by
  cases found : Value.at? others field.1 with
  | none => rw [readField_absent field found, readField_absent field (same.trans found)]
  | some value => rw [readField_present field found, readField_present field (same.trans found)]

theorem Shape.read_object (name : String) (fields : List (String × Kind))
    (given : List (String × Value)) :
    (Shape.mk name fields).read (.object given) =
      (.mk (repairedOf fields given).1
          (fields.map fun field => (field.1, (readField given field).2.1)),
        (repairedOf fields given).2 ++
          fields.flatMap fun field => (readField given field).2.2.map (Issue.within field.1)) := by
  simp only [Shape.read, readFields_eq, List.map_map, List.flatMap_map, Function.comp_def,
    readField_fst]

theorem read_object (name : String) (fields : List (String × Kind))
    (given : List (String × Value)) :
    (Kind.one (.mk name fields)).read (.object given) =
      (.one ((Shape.mk name fields).read (.object given)).1,
        ((Shape.mk name fields).read (.object given)).2) := by
  simp only [Kind.read, Value.isRecord, if_true]

/-- An element of a list that is no record is read as a record without any field. -/
def Shape.readElement (shape : Shape) (element : Value) : Record × List Issue :=
  shape.read (if element.isRecord then element else .object [])

theorem read_many (shape : Shape) (value : Value) :
    (Kind.many shape).read value =
      (.many ((value.listed?.getD []).map fun element => (shape.readElement element).1),
        ((value.listed?.getD []).map fun element => (shape.readElement element).2).zipIdx.flatMap
          fun (issues, i) => issues.map (Issue.within (toString i))) := by
  simp only [Kind.read, List.map_map, List.zipIdx_map, List.flatMap_map]
  rfl

theorem Value.at?_of_lookup {given : List (String × Value)} {key : String} {value : Value}
    (found : given.lookup key = some value) (present : value ≠ .null) :
    at? given key = some value := by
  unfold at?
  rw [found]
  cases value with
  | null => exact absurd rfl present
  | _ => rfl

theorem Value.ne_null_of_at? {given : List (String × Value)} {key : String} {value : Value}
    (found : at? given key = some value) : value ≠ .null := by
  rintro rfl
  unfold at? at found
  split at found
  · cases found
  · cases found
  · rename_i nonnull _
    exact nonnull (Option.some.inj found)

theorem Value.at?_congr {given others : List (String × Value)} {key : String}
    (same : given.lookup key = others.lookup key) : at? given key = at? others key := by
  rw [at?, at?, same]

/-- Values that a field of a kind takes alike, and that are read alike but for the repaired fields
that their records list. -/
structure Value.Alike (f : List String → List String) (kind : Kind) (value other : Value) :
    Prop where
  present : value ≠ .null ∧ other ≠ .null
  admits : kind.admits value = kind.admits other
  field : (kind.read value).1.mapRepaired f = (kind.read other).1.mapRepaired f
  issues : (kind.read value).2 = (kind.read other).2

namespace Value.Alike

variable {f : List String → List String} {shape : Shape} {value other : Value}

theorem refl (kind : Kind) (present : value ≠ .null) : Alike f kind value value :=
  ⟨⟨present, present⟩, rfl, rfl, rfl⟩

theorem readElement (alike : Alike f (.one shape) value other) :
    (shape.readElement value).1.mapRepaired f = (shape.readElement other).1.mapRepaired f ∧
      (shape.readElement value).2 = (shape.readElement other).2 := by
  obtain ⟨-, admits, field, issues⟩ := alike
  simp only [Kind.admits] at admits
  simp only [Kind.read, ← admits] at field issues
  simp only [Shape.readElement, ← admits]
  by_cases record : value.isRecord
  · simp only [record, if_true, Field.mapRepaired, Field.one.injEq] at field issues ⊢
    exact ⟨field, issues⟩
  · simp only [record, if_false, Bool.false_eq_true, and_self]

theorem element {old new : Value} {first last : List Value}
    (before : value.listed? = some (first ++ old :: last))
    (after : other.listed? = some (first ++ new :: last)) (alike : Alike f (.one shape) old new) :
    Alike f (.many shape) value other where
  present := by
    constructor
    · rintro rfl
      cases before
    · rintro rfl
      cases after
  admits := by simp only [Kind.admits, before, after, Option.isSome_some]
  field := by
    simp only [read_many, before, after, Option.getD_some, Field.mapRepaired, mapRepairedAll_eq,
      List.map_append, List.map_cons, alike.readElement.1]
  issues := by
    simp only [read_many, before, after, Option.getD_some, List.map_append, List.map_cons,
      alike.readElement.2]

section Object

variable {name : String} {fields : List (String × Kind)} {given others : List (String × Value)}

theorem of_fields (repaired : f (repairedOf fields given).1 = f (repairedOf fields others).1)
    (claims : (repairedOf fields given).2 = (repairedOf fields others).2)
    (each : ∀ field ∈ fields,
      (readField given field).2.1.mapRepaired f = (readField others field).2.1.mapRepaired f ∧
        (readField given field).2.2 = (readField others field).2.2) :
    Alike f (.one (.mk name fields)) (.object given) (.object others) where
  present := ⟨nofun, nofun⟩
  admits := rfl
  field := by
    have values : (fields.map fun field => (field.1, (readField given field).2.1.mapRepaired f)) =
        fields.map fun field => (field.1, (readField others field).2.1.mapRepaired f) :=
      List.map_congr_left fun field declared => by rw [(each field declared).1]
    simp only [read_object, Shape.read_object, Field.mapRepaired, Record.mapRepaired,
      mapRepairedFields_eq, List.map_map, Function.comp_def, repaired, values]
  issues := by
    have told : (fields.flatMap fun field =>
        (readField given field).2.2.map (Issue.within field.1)) =
          fields.flatMap fun field => (readField others field).2.2.map (Issue.within field.1) :=
      List.flatMap_congr fun field declared => by rw [(each field declared).2]
    simp only [read_object, Shape.read_object, claims, told]

theorem malformed_eq (each : ∀ field ∈ fields, Option.Rel (Alike f field.2) (at? given field.1)
      (at? others field.1)) : malformed fields given = malformed fields others := by
  unfold malformed
  congr 1
  apply List.filter_congr
  intro field declared
  have related := each field declared
  generalize at? given field.1 = before, at? others field.1 = after at related ⊢
  cases related with
  | none => rfl
  | some alike => simp only [alike.admits]

theorem readField_eq {field : String × Kind}
    (related : Option.Rel (Alike f field.2) (at? given field.1) (at? others field.1)) :
    (readField given field).2.1.mapRepaired f = (readField others field).2.1.mapRepaired f ∧
      (readField given field).2.2 = (readField others field).2.2 := by
  generalize found : at? given field.1 = before, found' : at? others field.1 = after at related
  cases related with
  | none =>
    rw [readField_absent field found, readField_absent field found']
    exact ⟨rfl, rfl⟩
  | some alike =>
    rw [readField_present field found, readField_present field found']
    exact ⟨alike.field, alike.issues⟩

theorem object (claims : given.lookup repairedKey = others.lookup repairedKey)
    (each : ∀ field ∈ fields, Option.Rel (Alike f field.2) (at? given field.1)
      (at? others field.1)) :
    Alike f (.one (.mk name fields)) (.object given) (.object others) := by
  have repaired : repairedOf fields given = repairedOf fields others := by
    have claimed : readRepaired given = readRepaired others := by
      simp only [readRepaired, at?, claims]
    rw [repairedOf, repairedOf, malformed_eq each, claimed]
  exact .of_fields (by rw [repaired]) (by rw [repaired]) fun field declared =>
    readField_eq (each field declared)

end Object

end Value.Alike

/-- A change that is not seen where it is made is not seen from outside either. -/
theorem ChangedAt.alike {f : List String → List String} {change : Kind → Value → Value → Prop}
    (unseen : ∀ {kind value other}, change kind value other → Value.Alike f kind value other)
    {kind : Kind} {value other : Value} (changed : ChangedAt change kind value other) :
    Value.Alike f kind value other := by
  -- Along the path to what was changed: each record or list on it is read alike if its changed part
  -- is, for all its other parts are the same.
  induction changed with
  | here changed => exact unseen changed
  | element first last before after inner ih => exact .element before after ih
  | @field name key fields given others value other declared own before after outside inner ih =>
    refine .object (outside _ own.symm) fun field member => ?_
    by_cases changed : field.1 = key
    · have alike := ih field.2 (changed ▸ member)
      rw [changed, Value.at?_of_lookup before alike.present.1,
        Value.at?_of_lookup after alike.present.2]
      exact .some alike
    · rw [Value.at?_congr (outside _ changed)]
      cases found : Value.at? others field.1 with
      | none => exact .none
      | some value => exact .some (.refl _ (Value.ne_null_of_at? found))

theorem readDaily_alike {f : List String → List String} {given others : List (String × Value)}
    (alike : Value.Alike f (.one .daily) (.object given) (.object others)) :
    (readDaily (.object given)).map (Record.mapRepaired f) =
      (readDaily (.object others)).map (Record.mapRepaired f) := by
  obtain ⟨-, -, field, issues⟩ := alike
  simp only [Kind.read, Value.isRecord, if_true, Field.mapRepaired, Field.one.injEq] at field issues
  rw [readDaily, readDaily]
  · generalize Shape.daily.read (.object given) = read,
      Shape.daily.read (.object others) = read' at field issues ⊢
    obtain ⟨record, told⟩ := read
    obtain ⟨record', told'⟩ := read'
    obtain rfl : told = told' := issues
    cases told with
    | nil => exact congrArg Except.ok field
    | cons => rfl
  · nofun
  · nofun

end UsageMetrics.Feed
