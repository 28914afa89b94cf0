import UsageMetrics.Feed.Delivery
import UsageMetrics.Proofs.Feed.Entries

namespace UsageMetrics.Feed

open UsageMetrics.Text

namespace Delivery

theorem shownAll_eq_map (values : List Delivery) : shownAll values = values.map shown := by
  induction values with
  | nil => rfl
  | cons value rest ih => rw [shownAll, ih, List.map_cons]

theorem allUnicode_iff {values : List Delivery} :
    allUnicode values ↔ ∀ value ∈ values, value.isUnicode := by
  induction values with
  | nil => exact iff_of_true rfl (List.forall_mem_nil _)
  | cons value rest ih => rw [allUnicode, Bool.and_eq_true, ih, List.forall_mem_cons]

theorem given_shown (d : Delivery) : d.shown.given = shownFields d.given := by
  cases d <;> rfl

theorem lookup_shown (fields : List (Points × Delivery)) (key : String) :
    (shownFields fields).lookup key = ((keyed fields).lookup key).map shown := by
  induction fields with
  | nil => rfl
  | cons field rest ih =>
    obtain ⟨own, value⟩ := field
    rw [shownFields, shownField, keyed, List.map_cons, List.lookup_cons, List.lookup_cons]
    cases key == own.shown with
    | true => rfl
    | false => exact ih

section Under

variable (fields : List (Points × Delivery)) (key : String)

theorem at?_shown : Value.at? (shownFields fields) key = (at? fields key).map shown := by
  rw [Value.at?, at?, lookup_shown]
  cases (keyed fields).lookup key with
  | none => rfl
  | some value => cases value <;> rfl

theorem listUnder_shown :
    Feed.listUnder (shownFields fields) key = (listUnder fields key).map shown := by
  rw [Feed.listUnder, listUnder, at?_shown]
  cases at? fields key with
  | none => rfl
  | some value =>
    cases value with
    | list values => exact shownAll_eq_map values
    | _ => rfl

theorem textUnder_shown :
    Feed.textUnder (shownFields fields) key = (textUnder fields key).map Points.shown := by
  rw [Feed.textUnder, textUnder, at?_shown]
  cases at? fields key with
  | none => rfl
  | some value => cases value <;> rfl

end Under

section Unicode

variable {fields : List (Points × Delivery)} {key : String}

theorem isUnicode_lookup {value : Delivery} (unicode : fieldsUnicode fields)
    (found : (keyed fields).lookup key = some value) : value.isUnicode := by
  induction fields with
  | nil => cases found
  | cons field rest ih =>
    obtain ⟨own, first⟩ := field
    simp only [fieldsUnicode, fieldUnicode, Bool.and_eq_true] at unicode
    rw [keyed, List.map_cons, List.lookup_cons] at found
    cases same : key == own.shown with
    | true =>
      rw [same] at found
      obtain rfl := Option.some.inj found
      exact unicode.1.2
    | false =>
      rw [same] at found
      exact ih unicode.2 found

theorem isUnicode_at? {value : Delivery} (unicode : fieldsUnicode fields)
    (found : at? fields key = some value) : value.isUnicode := by
  rw [at?] at found
  cases under : (keyed fields).lookup key with
  | none => rw [under] at found; cases found
  | some given =>
    have same : given = value := by
      rw [under] at found
      cases given <;> cases found <;> rfl
    exact same ▸ isUnicode_lookup unicode under

theorem isUnicode_textUnder {points : Points} (unicode : fieldsUnicode fields)
    (found : textUnder fields key = some points) : points.isUnicode := by
  rw [textUnder] at found
  split at found
  · rename_i given under
    obtain rfl := Option.some.inj found
    simpa only [isUnicode] using isUnicode_at? unicode under
  · cases found

theorem isUnicode_listUnder (unicode : fieldsUnicode fields) :
    ∀ element ∈ listUnder fields key, element.isUnicode := by
  rw [listUnder]
  cases under : at? fields key with
  | none => exact List.forall_mem_nil _
  | some value =>
    cases value with
    | list values =>
      have all := isUnicode_at? unicode under
      simp only [isUnicode] at all
      exact allUnicode_iff.mp all
    | _ => exact List.forall_mem_nil _

theorem isUnicode_given {d : Delivery} (unicode : d.isUnicode) : fieldsUnicode d.given := by
  cases d with
  | object fields =>
    simp only [isUnicode] at unicode
    exact unicode
  | _ => rfl

end Unicode

end Delivery

namespace DeliveredEntry

def shown (entry : DeliveredEntry) : String × List (String × Value) :=
  (entry.list, Delivery.shownFields entry.given)

end DeliveredEntry

def GivenEntry.seen (entry : GivenEntry) : String × List (String × Value) :=
  (entry.list, entry.given)

mutual

theorem Kind.delivered_unicode : (kind : Kind) → (key : String) → (elements : List Delivery) →
    (∀ element ∈ elements, element.isUnicode) →
      ∀ entry ∈ kind.delivered key elements, Delivery.fieldsUnicode entry.given
  | .many (.mk _ fields), key, elements, unicode => by
    rw [Kind.delivered, List.forall_mem_flatMap]
    intro element member
    have given := Delivery.isUnicode_given (unicode element member)
    exact List.forall_mem_cons.mpr ⟨given, deliveredIn_unicode fields element.given given⟩
  | .text, _, _, _ => List.forall_mem_nil _
  | .day, _, _, _ => List.forall_mem_nil _
  | .count, _, _, _ => List.forall_mem_nil _
  | .flag, _, _, _ => List.forall_mem_nil _
  | .one _, _, _, _ => List.forall_mem_nil _

theorem deliveredIn_unicode : (fields : List (String × Kind)) →
    (given : List (Points × Delivery)) → Delivery.fieldsUnicode given →
      ∀ entry ∈ deliveredIn fields given, Delivery.fieldsUnicode entry.given
  | [], _, _ => List.forall_mem_nil _
  | field :: rest, given, unicode => List.forall_mem_append.mpr
    ⟨deliveredUnder_unicode field given unicode, deliveredIn_unicode rest given unicode⟩

theorem deliveredUnder_unicode : (field : String × Kind) → (given : List (Points × Delivery)) →
    Delivery.fieldsUnicode given →
      ∀ entry ∈ deliveredUnder field given, Delivery.fieldsUnicode entry.given
  | (key, kind), _, unicode =>
    kind.delivered_unicode key _ (Delivery.isUnicode_listUnder unicode)

end

mutual

theorem Kind.delivered_shown : (kind : Kind) → (key : String) → (elements : List Delivery) →
    (kind.delivered key elements).map DeliveredEntry.shown =
      (kind.entries key (elements.map Delivery.shown)).map GivenEntry.seen
  | .many (.mk _ fields), key, elements => by
    rw [Kind.delivered, Kind.entries, List.map_flatMap, List.map_flatMap, List.flatMap_map]
    refine List.flatMap_congr fun element _ => ?_
    rw [List.map_cons, List.map_cons, deliveredIn_shown fields, Delivery.given_shown]
    rfl
  | .text, _, _ => rfl
  | .day, _, _ => rfl
  | .count, _, _ => rfl
  | .flag, _, _ => rfl
  | .one _, _, _ => rfl

theorem deliveredIn_shown : (fields : List (String × Kind)) → (given : List (Points × Delivery)) →
    (deliveredIn fields given).map DeliveredEntry.shown =
      (entriesIn fields (Delivery.shownFields given)).map GivenEntry.seen
  | [], _ => rfl
  | field :: rest, given => by
    rw [deliveredIn, entriesIn, List.map_append, List.map_append, deliveredUnder_shown field,
      deliveredIn_shown rest]

theorem deliveredUnder_shown : (field : String × Kind) → (given : List (Points × Delivery)) →
    (deliveredUnder field given).map DeliveredEntry.shown =
      (entriesUnder field (Delivery.shownFields given)).map GivenEntry.seen
  | (key, kind), given => by
    rw [deliveredUnder, entriesUnder, Kind.delivered_shown kind, Delivery.listUnder_shown]

end

end UsageMetrics.Feed
