import UsageMetrics.Proofs.Feed.Unreadable

namespace UsageMetrics.Feed

/-- The elements of a list in another order, each related to its counterpart. -/
inductive Rearranged {α : Type} (related : α → α → Prop) : List α → List α → Prop where
  | nil : Rearranged related [] []
  | cons {a b : α} {before after : List α} (first : related a b)
      (rest : Rearranged related before after) : Rearranged related (a :: before) (b :: after)
  | swap (a b : α) (rest : List α) : Rearranged related (a :: b :: rest) (b :: a :: rest)
  | trans {before between after : List α} (first : Rearranged related before between)
      (second : Rearranged related between after) : Rearranged related before after

namespace Rearranged

variable {α β : Type} {related : α → α → Prop} {before after : List α}

theorem refl (same : ∀ a, related a a) (as : List α) : Rearranged related as as := by
  induction as with
  | nil => exact .nil
  | cons a rest ih => exact .cons (same a) ih

theorem of_perm (same : ∀ a, related a a) (order : before.Perm after) :
    Rearranged related before after := by
  induction order with
  | nil => exact .nil
  | cons a rest ih => exact .cons (same a) ih
  | swap a b rest => exact .swap b a rest
  | trans first second ih ih' => exact .trans ih ih'

theorem turned {a a' b b' : α} (first : related a a') (second : related b b') :
    Rearranged related [a, b] [b', a'] :=
  .trans (.cons first (.cons second .nil)) (.swap a' b' [])

theorem map {f : α → β} {resulting : β → β → Prop} (rearranged : Rearranged related before after)
    (keeps : ∀ a b, related a b → resulting (f a) (f b)) :
    Rearranged resulting (before.map f) (after.map f) := by
  induction rearranged with
  | nil => exact .nil
  | cons first rest ih => exact .cons (keeps _ _ first) ih
  | swap a b rest => exact .swap (f a) (f b) (rest.map f)
  | trans first second ih ih' => exact ih.trans ih'

theorem forall_mem {holds : α → Prop} (rearranged : Rearranged related before after)
    (keeps : ∀ a b, related a b → holds a → holds b) (every : ∀ a ∈ before, holds a) :
    ∀ b ∈ after, holds b := by
  induction rearranged with
  | nil => exact every
  | cons same rest ih =>
    obtain ⟨first, others⟩ := List.forall_mem_cons.mp every
    exact List.forall_mem_cons.mpr ⟨keeps _ _ same first, ih others⟩
  | swap a b rest => simp_all
  | trans first second ih ih' => exact ih' (ih every)

theorem flatMap_perm {f : α → List β} (rearranged : Rearranged related before after)
    (keeps : ∀ a b, related a b → (f a).Perm (f b)) :
    (before.flatMap f).Perm (after.flatMap f) := by
  induction rearranged with
  | nil => exact List.Perm.refl _
  | cons first rest ih =>
    rw [List.flatMap_cons, List.flatMap_cons]
    exact (keeps _ _ first).append ih
  | swap a b rest => exact (List.Perm.swap b a rest).flatMap_right f
  | trans first second ih ih' => exact ih.trans ih'

theorem map_perm {f : α → β} (rearranged : Rearranged related before after)
    (keeps : ∀ a b, related a b → f a = f b) : (before.map f).Perm (after.map f) := by
  have flat := rearranged.flatMap_perm (f := fun a => [f a]) fun a b same => by
    rw [keeps a b same]
  simpa only [← List.map_eq_flatMap] using flat

end Rearranged

inductive Fieldwise {α : Type} (related : α → α → Prop) :
    List (String × α) → List (String × α) → Prop where
  | nil : Fieldwise related [] []
  | cons {name : String} {a b : α} {before after : List (String × α)} (first : related a b)
      (rest : Fieldwise related before after) :
      Fieldwise related ((name, a) :: before) ((name, b) :: after)

namespace Fieldwise

variable {α : Type} {related : α → α → Prop} {before after : List (String × α)}

theorem refl (same : ∀ a, related a a) (fields : List (String × α)) :
    Fieldwise related fields fields := by
  induction fields with
  | nil => exact .nil
  | cons field rest ih => exact .cons (same field.2) ih

theorem lookup (fieldwise : Fieldwise related before after) (name : String) :
    Option.Rel related (before.lookup name) (after.lookup name) := by
  induction fieldwise with
  | nil => exact .none
  | @cons other a b before after first rest ih =>
    rw [List.lookup_cons, List.lookup_cons]
    split
    · exact .some first
    · exact ih

end Fieldwise

mutual

inductive Field.Reordered : Field → Field → Prop where
  | same (field : Field) : Field.Reordered field field
  | one {record other : Record} (inner : Record.Reordered record other) :
      Field.Reordered (.one record) (.one other)
  | many {records others : List Record} (rearranged : Rearranged Record.Reordered records others) :
      Field.Reordered (.many records) (.many others)

inductive Record.Reordered : Record → Record → Prop where
  | mk {repaired : List String} {fields others : List (String × Field)}
      (inner : Fieldwise Field.Reordered fields others) :
      Record.Reordered (.mk repaired fields) (.mk repaired others)

end

/-- Values that differ only in the order of lists, at any depth, but not in the list of repaired
fields that a record claims for itself. -/
inductive Value.Reordered : Value → Value → Prop where
  | same (value : Value) : Reordered value value
  | list {values others : List Value} (rearranged : Rearranged Reordered values others) :
      Reordered (.list values) (.list others)
  | tuple {values others : List Value} (rearranged : Rearranged Reordered values others) :
      Reordered (.tuple values) (.tuple others)
  | object {given others : List (String × Value)} (inner : Fieldwise Reordered given others)
      (claims : given.lookup repairedKey = others.lookup repairedKey) :
      Reordered (.object given) (.object others)
  | snapshot {record other : Record} (inner : record.Reordered other) :
      Reordered (.snapshot record) (.snapshot other)

namespace Record

variable {r s : Record}

theorem Reordered.refl (r : Record) : r.Reordered r := by
  cases r
  exact .mk (Fieldwise.refl Field.Reordered.same _)

theorem Reordered.repaired_eq (reordered : r.Reordered s) : r.repaired = s.repaired := by
  cases reordered
  rfl

theorem Reordered.find? (reordered : r.Reordered s) (name : String) :
    Option.Rel Field.Reordered (r.find? name) (s.find? name) := by
  obtain ⟨inner⟩ := reordered
  exact inner.lookup name

theorem Reordered.find?_cases (reordered : r.Reordered s) (name : String) :
    r.find? name = s.find? name ∨
      (∃ a b, r.find? name = some (.one a) ∧ s.find? name = some (.one b) ∧ a.Reordered b) ∨
      ∃ as bs, r.find? name = some (.many as) ∧ s.find? name = some (.many bs) ∧
        Rearranged Record.Reordered as bs := by
  have found := reordered.find? name
  generalize r.find? name = before, s.find? name = after at found ⊢
  cases found with
  | none => exact .inl rfl
  | some related =>
    cases related with
    | same => exact .inl rfl
    | one inner => exact .inr (.inl ⟨_, _, rfl, rfl, inner⟩)
    | many rearranged => exact .inr (.inr ⟨_, _, rfl, rfl, rearranged⟩)

theorem Reordered.text_eq (reordered : r.Reordered s) (name : String) :
    r.text name = s.text name := by
  rcases reordered.find?_cases name with same | ⟨a, b, before, after, -⟩ |
      ⟨as, bs, before, after, -⟩ <;> simp only [text, *]

theorem Reordered.count_eq (reordered : r.Reordered s) (name : String) :
    r.count name = s.count name := by
  rcases reordered.find?_cases name with same | ⟨a, b, before, after, -⟩ |
      ⟨as, bs, before, after, -⟩ <;> simp only [count, *]

theorem Reordered.flag_eq (reordered : r.Reordered s) (name : String) :
    r.flag name = s.flag name := by
  rcases reordered.find?_cases name with same | ⟨a, b, before, after, -⟩ |
      ⟨as, bs, before, after, -⟩ <;> simp only [flag, *]

theorem Reordered.one (reordered : r.Reordered s) (name : String) :
    (r.one name).Reordered (s.one name) := by
  rcases reordered.find?_cases name with same | ⟨a, b, before, after, inner⟩ |
      ⟨as, bs, before, after, -⟩
  · rw [Record.one, Record.one, same]
    exact .refl _
  · rw [Record.one, Record.one, before, after]
    exact inner
  · rw [Record.one, Record.one, before, after]
    exact .refl _

theorem Reordered.many (reordered : r.Reordered s) (name : String) :
    Rearranged Record.Reordered (r.many name) (s.many name) := by
  rcases reordered.find?_cases name with same | ⟨a, b, before, after, -⟩ |
      ⟨as, bs, before, after, rearranged⟩
  · rw [Record.many, Record.many, same]
    exact .refl .refl _
  · rw [Record.many, Record.many, before, after]
    exact .nil
  · rw [Record.many, Record.many, before, after]
    exact rearranged

end Record

namespace Value

variable {value other : Value}

theorem Reordered.isRecord_eq (reordered : value.Reordered other) :
    value.isRecord = other.isRecord := by
  cases reordered <;> rfl

theorem Reordered.admits_eq (reordered : value.Reordered other) (kind : Kind) :
    kind.admits value = kind.admits other := by
  cases reordered <;> cases kind <;> rfl

theorem Reordered.listed? (reordered : value.Reordered other) :
    Rearranged Value.Reordered (value.listed?.getD []) (other.listed?.getD []) := by
  cases reordered with
  | same => exact .refl .same _
  | list rearranged => exact rearranged
  | tuple rearranged => exact rearranged
  | object => exact .nil
  | snapshot => exact .nil

theorem at?_reordered {given others : List (String × Value)}
    (inner : Fieldwise Value.Reordered given others) (key : String) :
    Option.Rel Value.Reordered (at? given key) (at? others key) := by
  have found := inner.lookup key
  unfold at?
  generalize given.lookup key = before, others.lookup key = after at found ⊢
  cases found with
  | none => exact .none
  | @some value other related =>
    cases related with
    | same =>
      cases value with
      | null => exact .none
      | _ => exact .some (.same _)
    | list rearranged => exact .some (.list rearranged)
    | tuple rearranged => exact .some (.tuple rearranged)
    | object inner claims => exact .some (.object inner claims)
    | snapshot inner => exact .some (.snapshot inner)

end Value

section Reading

variable {given others : List (String × Value)}

theorem malformed_reordered (inner : Fieldwise Value.Reordered given others)
    (fields : List (String × Kind)) : malformed fields given = malformed fields others := by
  unfold malformed
  congr 1
  apply List.filter_congr
  intro field _
  have found := Value.at?_reordered inner field.1
  generalize Value.at? given field.1 = before, Value.at? others field.1 = after at found ⊢
  cases found with
  | none => rfl
  | some related => simp only [related.admits_eq field.2]

theorem repairedOf_reordered (inner : Fieldwise Value.Reordered given others)
    (claims : given.lookup repairedKey = others.lookup repairedKey)
    (fields : List (String × Kind)) : repairedOf fields given = repairedOf fields others := by
  have same : readRepaired given = readRepaired others := by
    simp only [readRepaired, Value.at?, claims]
  rw [repairedOf, repairedOf, malformed_reordered inner fields, same]

structure ReadAlike {α : Type} (related : α → α → Prop) (read other : α × List Issue) : Prop where
  value : related read.1 other.1
  clean : read.2 = [] ↔ other.2 = []

theorem ReadAlike.refl {α : Type} {related : α → α → Prop} (same : ∀ a, related a a)
    (read : α × List Issue) : ReadAlike related read read :=
  ⟨same _, Iff.rfl⟩

theorem ReadAlike.many {elements others : List (Record × List Issue)}
    (alike : Rearranged (ReadAlike Record.Reordered) elements others) :
    ReadAlike Field.Reordered
      (.many (elements.map Prod.fst),
        elements.zipIdx.flatMap fun (element, i) => element.2.map (Issue.within (toString i)))
      (.many (others.map Prod.fst),
        others.zipIdx.flatMap fun (element, i) => element.2.map (Issue.within (toString i))) where
  value := .many (alike.map fun _ _ same => same.value)
  clean := by
    -- An issue is told with the place of its element, which the order changes; that there is no
    -- issue at any place it does not.
    rw [indexed_issues_clean, indexed_issues_clean]
    induction alike with
    | nil => exact Iff.rfl
    | cons first rest ih => rw [List.forall_mem_cons, List.forall_mem_cons, first.clean, ih]
    | swap a b rest => simp [and_left_comm]
    | trans first second ih ih' => exact ih.trans ih'

theorem ReadAlike.record {fields others : List (String × Field × List Issue)}
    (alike : Fieldwise (ReadAlike Field.Reordered) fields others)
    (repaired : List String × List Issue) :
    ReadAlike Record.Reordered
      (.mk repaired.1 (fields.map fun field => (field.1, field.2.1)),
        repaired.2 ++ fields.flatMap fun field => field.2.2.map (Issue.within field.1))
      (.mk repaired.1 (others.map fun field => (field.1, field.2.1)),
        repaired.2 ++ others.flatMap fun field => field.2.2.map (Issue.within field.1)) where
  value := by
    refine .mk ?_
    induction alike with
    | nil => exact .nil
    | cons first rest ih => exact .cons first.value ih
  clean := by
    rw [List.append_eq_nil_iff, List.append_eq_nil_iff]
    refine and_congr_right fun _ => ?_
    induction alike with
    | nil => exact Iff.rfl
    | cons first rest ih =>
      rw [List.flatMap_cons, List.flatMap_cons, List.append_eq_nil_iff, List.append_eq_nil_iff,
        List.map_eq_nil_iff, List.map_eq_nil_iff, first.clean, ih]

mutual

theorem Kind.read_reordered : ∀ (kind : Kind) {value other : Value}, value.Reordered other →
    ReadAlike Field.Reordered (kind.read value) (kind.read other)
  | .text, _, _, reordered => by cases reordered <;> exact .refl .same _
  | .day, _, _, reordered => by cases reordered <;> exact .refl .same _
  | .count, _, _, reordered => by cases reordered <;> exact .refl .same _
  | .flag, _, _, reordered => by cases reordered <;> exact .refl .same _
  | .one shape, value, other, reordered => by
    rw [Kind.read, Kind.read, reordered.isRecord_eq]
    split
    · have record := Shape.read_reordered shape reordered
      exact ⟨.one record.value, record.clean⟩
    · exact .refl .same _
  | .many shape, value, other, reordered => by
    rw [Kind.read, Kind.read]
    refine .many (reordered.listed?.map fun element element' same => ?_)
    rw [same.isRecord_eq]
    split
    · exact Shape.read_reordered shape same
    · exact .refl .refl _

theorem Shape.read_reordered : ∀ (shape : Shape) {value other : Value}, value.Reordered other →
    ReadAlike Record.Reordered (shape.read value) (shape.read other)
  | .mk name fields, _, _, reordered => by
    cases reordered with
    | same value => exact .refl .refl _
    | list => exact .refl .refl _
    | tuple => exact .refl .refl _
    | snapshot => exact .refl .refl _
    | object inner claims =>
      rw [Shape.read, Shape.read, repairedOf_reordered inner claims]
      exact .record (readFields_reordered fields inner) _

theorem readFields_reordered : ∀ (fields : List (String × Kind))
    {given others : List (String × Value)}, Fieldwise Value.Reordered given others →
    Fieldwise (ReadAlike Field.Reordered) (readFields given fields) (readFields others fields)
  | [], _, _, _ => .nil
  | (name, kind) :: rest, _, _, inner =>
    .cons (readField_reordered name kind inner) (readFields_reordered rest inner)

theorem readField_reordered : ∀ (name : String) (kind : Kind)
    {given others : List (String × Value)}, Fieldwise Value.Reordered given others →
    ReadAlike Field.Reordered (readField given (name, kind)).2 (readField others (name, kind)).2
  | name, kind, given, others, inner => by
    have found := Value.at?_reordered inner name
    simp only [readField]
    generalize Value.at? given name = before, Value.at? others name = after at found ⊢
    cases found with
    | none => exact .refl .same _
    | some related => exact Kind.read_reordered kind related

end

theorem readDaily_reordered {raw other : Value} (reordered : raw.Reordered other) :
    Option.Rel Record.Reordered (readDaily raw).toOption (readDaily other).toOption := by
  cases reordered with
  | same =>
    cases (readDaily raw).toOption with
    | none => exact .none
    | some record => exact .some (.refl record)
  | list => exact .none
  | tuple => exact .none
  | snapshot inner => exact .some inner
  | @object given others inner claims =>
    have alike := Shape.read_reordered .daily (.object inner claims)
    rw [readDaily, readDaily]
    · generalize Shape.daily.read (.object given) = read,
        Shape.daily.read (.object others) = read' at alike ⊢
      obtain ⟨record, issues⟩ := read
      obtain ⟨record', issues'⟩ := read'
      -- The issues themselves may differ: their paths tell the places of elements.
      have clean : issues = [] ↔ issues' = [] := alike.clean
      cases issues with
      | nil =>
        obtain rfl := clean.mp rfl
        exact .some alike.value
      | cons issue rest =>
        cases issues' with
        | nil => cases clean.mpr rfl
        | cons issue' rest' => exact .none
    · intro record same
      cases same
    · intro record same
      cases same

end Reading

end UsageMetrics.Feed
