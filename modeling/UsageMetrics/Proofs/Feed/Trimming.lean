import UsageMetrics.Proofs.Feed.Change

namespace UsageMetrics.Feed

/-- Something that a record says to no effect is left out: a field without a value or with one that
is reset, or an element of a list that is no record, which becomes an empty one. A record that
claims repaired fields for itself has to keep its fields. -/
inductive Trim : Kind → Value → Value → Prop where
  | field {name key : String} {fields : List (String × Kind)} {given others : List (String × Value)}
      {value : Value} (declared : key ∈ fields.map Prod.fst)
      (unclaimed : given.lookup repairedKey = none) (before : given.lookup key = some value)
      (useless : value = .null ∨ ∀ field ∈ fields, field.1 = key → field.2.admits value = false)
      (after : others.lookup key = none) (outside : SameBeside key given others) :
      Trim (.one (.mk name fields)) (.object given) (.object others)
  | element {shape : Shape} {value other old : Value} (first last : List Value)
      (before : value.listed? = some (first ++ old :: last))
      (after : other.listed? = some (first ++ .object [] :: last)) (stray : old.isRecord = false) :
      Trim (.many shape) value other

theorem Kind.read_of_not_admits {kind : Kind} {value : Value}
    (refused : kind.admits value = false) : kind.read value = (kind.blank, []) := by
  cases kind with
  | text =>
    cases value with
    | text => cases refused
    | _ => rfl
  | day => cases refused
  | count =>
    have none := Option.not_isSome_iff_eq_none.mp (ne_true_of_eq_false refused)
    rw [Kind.read, none, Kind.blank, settle]
  | flag =>
    have none := Option.not_isSome_iff_eq_none.mp (ne_true_of_eq_false refused)
    rw [Kind.read, none, Kind.blank, settle]
  | one shape =>
    have other : ¬value.isRecord := ne_true_of_eq_false refused
    rw [Kind.read, if_neg other, Kind.blank]
  | many shape =>
    have none := Option.not_isSome_iff_eq_none.mp (ne_true_of_eq_false refused)
    rw [read_many, none, Kind.blank]
    rfl

theorem repairedOf_unclaimed (fields : List (String × Kind)) {given : List (String × Value)}
    (unclaimed : given.lookup repairedKey = none) :
    repairedOf fields given = (malformed fields given, []) := by
  have absent : Value.at? given repairedKey = none := by rw [Value.at?, unclaimed]
  unfold repairedOf
  cases reset : malformed fields given with
  | nil => simp [readRepaired, absent]
  | cons field rest => simp

theorem readField_trimmed {key : String} {given others : List (String × Value)} {value : Value}
    (before : given.lookup key = some value) (after : others.lookup key = none) {kind : Kind}
    (useless : value = .null ∨ kind.admits value = false) :
    (readField given (key, kind)).2 = (readField others (key, kind)).2 := by
  have absent : Value.at? others key = none := by rw [Value.at?, after]
  have hollow : value = .null → Value.at? given key = none := by
    rintro rfl
    rw [Value.at?, before]
  rw [readField_absent (key, kind) absent]
  by_cases null : value = .null
  · exact readField_absent (key, kind) (hollow null)
  · have refused := useless.resolve_left null
    rw [readField_present (key, kind) (Value.at?_of_lookup before null),
      Kind.read_of_not_admits refused]

theorem Trim.alike {kind : Kind} {value other : Value} (trimmed : Trim kind value other) :
    Value.Alike (fun _ => []) kind value other := by
  cases trimmed with
  | @element shape value other old first last before after stray =>
    have read : shape.readElement old = shape.readElement (.object []) := by
      rw [Shape.readElement, if_neg (ne_true_of_eq_false stray)]
      rfl
    refine ⟨⟨?_, ?_⟩, ?_, ?_, ?_⟩
    · rintro rfl
      cases before
    · rintro rfl
      cases after
    · simp only [Kind.admits, before, after, Option.isSome_some]
    · simp only [read_many, before, after, Option.getD_some, List.map_append, List.map_cons, read]
    · simp only [read_many, before, after, Option.getD_some, List.map_append, List.map_cons, read]
  | @field name key fields given others value declared unclaimed before useless after outside =>
    -- A record that claims repaired fields keeps its fields, so the claim is not what is left out.
    have own : repairedKey ≠ key := by
      rintro rfl
      rw [unclaimed] at before
      cases before
    have unclaimed' : others.lookup repairedKey = none := (outside _ own).symm.trans unclaimed
    have reads : ∀ field ∈ fields, (readField given field).2 = (readField others field).2 := by
      intro field member
      by_cases trimmed : field.1 = key
      · obtain ⟨name, kind⟩ := field
        obtain rfl : name = key := trimmed
        exact readField_trimmed before after
          (useless.imp_right fun refused => refused (name, kind) member rfl)
      · exact readField_congr field (Value.at?_congr (outside _ trimmed))
    have claims : (repairedOf fields given).2 = (repairedOf fields others).2 := by
      rw [repairedOf_unclaimed fields unclaimed, repairedOf_unclaimed fields unclaimed']
    refine .of_fields rfl claims fun field member => ?_
    rw [reads field member]
    exact ⟨rfl, rfl⟩

end UsageMetrics.Feed
