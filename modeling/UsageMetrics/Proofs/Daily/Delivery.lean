import UsageMetrics.Daily.Delivery
import UsageMetrics.Proofs.Answers
import UsageMetrics.Proofs.Daily.Naming
import UsageMetrics.Proofs.Daily.Warnings
import UsageMetrics.Proofs.Feed.Delivery
import UsageMetrics.Proofs.Feed.Unreadable

namespace UsageMetrics.Text

theorem allBlank_garbled {name : Points} (garbled : name.isUnicode = false) :
    allBlank name.shown = false := by
  obtain ⟨p, member, half⟩ := List.all_eq_false.mp garbled
  rw [allBlank, Points.shown, String.toList_ofList, List.all_eq_false]
  refine ⟨p.shown, List.mem_map_of_mem member, ?_⟩
  cases p with
  | char c => exact absurd rfl half
  | half => exact (by decide : ¬isBlank Point.replacement = true)

end UsageMetrics.Text

namespace UsageMetrics.Daily

open UsageMetrics.Calendar UsageMetrics.Metric UsageMetrics.Feed UsageMetrics.Text

theorem deliveredEntries_shown (d : Delivery) (group : MetricGroup) :
    (deliveredEntries d group).map DeliveredEntry.shown =
      (groupEntries d.shown.given group).map GivenEntry.seen := by
  rw [deliveredEntries, groupEntries, groupValue, deliveredIn_shown, Delivery.given_shown,
    Delivery.at?_shown]
  cases Delivery.at? d.given (recordKey group) with
  | none => rfl
  | some value => rw [Option.map_some, Option.getD_some, Delivery.given_shown]; rfl

theorem deliveredEntries_unicode {d : Delivery} (unicode : d.isUnicode) (group : MetricGroup) :
    ∀ entry ∈ deliveredEntries d group, Delivery.fieldsUnicode entry.given := by
  refine deliveredIn_unicode _ _ ?_
  cases under : Delivery.at? d.given (recordKey group) with
  | none => rfl
  | some value =>
    exact Delivery.isUnicode_given (Delivery.isUnicode_at? (Delivery.isUnicode_given unicode) under)

def Garbles (d : Delivery) (group : MetricGroup) : Prop :=
  ∃ entry ∈ deliveredEntries d group, ∃ name, entry.name? = some name ∧ name.isUnicode = false

theorem mem_garbledKeys {d : Delivery} {group : MetricGroup} {key : EntityKey} :
    key ∈ garbledKeys d group ↔ ∃ entry ∈ deliveredEntries d group, ∃ name,
      entry.name? = some name ∧ name.isUnicode = false ∧
        (listDimension entry.list, name.shown) = key := by
  rw [garbledKeys, List.mem_filterMap]
  refine exists_congr fun entry => and_congr_right fun _ => ?_
  cases entry.name? with
  | none => simp
  | some name => cases garbled : name.isUnicode <;> simp [garbled]

theorem garbledKeys_eq_nil_iff {d : Delivery} {group : MetricGroup} :
    garbledKeys d group = [] ↔ ¬Garbles d group := by
  rw [List.eq_nil_iff_forall_not_mem]
  constructor
  · rintro none ⟨entry, delivered, name, given, garbled⟩
    exact none _ (mem_garbledKeys.mpr ⟨entry, delivered, name, given, garbled, rfl⟩)
  · intro sound key member
    obtain ⟨entry, delivered, name, given, garbled, -⟩ := mem_garbledKeys.mp member
    exact sound ⟨entry, delivered, name, given, garbled⟩

instance (d : Delivery) (group : MetricGroup) : Decidable (Garbles d group) :=
  decidable_of_iff (garbledKeys d group ≠ []) (not_iff_comm.mp garbledKeys_eq_nil_iff.symm)

theorem read_shown {d : Delivery} {record : Record} (read : readDaily d.shown = .ok record) :
    (Shape.daily.read (.object d.shown.given)).1 = record := by
  cases d with
  | object fields => exact (readDaily_object.mp read).2
  | _ => cases read

section Garbled

variable {d : Delivery} {record : Record} {group : MetricGroup}

/-- A name that is no Unicode is more than blanks, so its entry is counted. -/
theorem mem_keys_of_garbled (read : readDaily d.shown = .ok record) (day : String)
    {key : EntityKey} (garbled : key ∈ garbledKeys d group) :
    key ∈ (Breakdown.run group day (groupFeed record.daily group).actions).counts.keys := by
  obtain ⟨entry, member, name, given, halved, rfl⟩ := mem_garbledKeys.mp garbled
  have seen : entry.shown ∈ (groupEntries d.shown.given group).map GivenEntry.seen :=
    deliveredEntries_shown d group ▸ List.mem_map_of_mem member
  obtain ⟨other, listed, same⟩ := List.mem_map.mp seen
  obtain ⟨list, fields⟩ := Prod.mk.inj same
  have named : textUnder other.given "name" = some name.shown := by
    rw [fields, Delivery.textUnder_shown]
    exact congrArg (Option.map Points.shown) given
  rw [Breakdown.mem_keys_run, ← read_shown read, mem_touchedBy_read]
  refine ⟨other, listed, congrArg listDimension list, ?_⟩
  rw [GivenEntry.name?, named, Option.filter_some, allBlank_garbled halved]
  rfl

theorem Breakdown.delivered?_garbled {b : Breakdown} {garbledKeys : List EntityKey}
    {key : EntityKey} (counted : key ∈ b.counts.keys) (garbled : key ∈ garbledKeys)
    (engagedUsers : Int) :
    b.delivered? garbledKeys group engagedUsers = .error Breakdown.garbled :=
  if_pos (List.any_eq_true.mpr ⟨key, counted, List.contains_iff_mem.mpr garbled⟩)

theorem normalizeGroup?_nil (r : DailyRecord) (day : String) (group : MetricGroup) :
    normalizeGroup? r day [] group = .ok (normalizeGroup r day group) := by
  have none : ¬(Breakdown.run group day (groupFeed r group).actions).counts.keys.any
      fun key => [].contains key := by simp
  have taken := normalizeGroup_snapshot? r day group
  simp only [normalizeGroup?, Breakdown.delivered?, if_neg none, taken]
  rfl

theorem normalizeGroup?_garbled (read : readDaily d.shown = .ok record) (day : String)
    (garbles : Garbles d group) :
    normalizeGroup? record.daily day (garbledKeys d group) group = .error Breakdown.garbled := by
  obtain ⟨entry, member, name, given, garbled⟩ := garbles
  have key := mem_garbledKeys.mpr ⟨entry, member, name, given, garbled, rfl⟩
  rw [normalizeGroup?, Breakdown.delivered?_garbled (mem_keys_of_garbled read day key) key]
  rfl

theorem normalizeOn?_sound (day : Day) (r : DailyRecord) (sound : ∀ group, ¬Garbles d group) :
    normalizeOn? day r (garbledKeys d) = .ok (normalizeOn day r) := by
  have each (group : MetricGroup) :
      (normalizeGroup? r day.iso (garbledKeys d group) group).map (fun made => (group, made)) =
        .ok (group, normalizeGroup r day.iso group) := by
    rw [garbledKeys_eq_nil_iff.mpr (sound group), normalizeGroup?_nil]
    rfl
  rw [normalizeOn?, mapM_ok fun group _ => each group]
  rfl

theorem normalizeOn?_garbled (read : readDaily d.shown = .ok record) (day : Day)
    (garbles : ∃ group, Garbles d group) :
    normalizeOn? day record.daily (garbledKeys d) = .error Breakdown.garbled := by
  -- A group without such a name is collected as ever, so the groups can fail in one way only.
  have each (group : MetricGroup) : Garbles d group ∨
      (normalizeGroup? record.daily day.iso (garbledKeys d group) group).map
        (fun made => (group, made)) = .ok (group, normalizeGroup record.daily day.iso group) := by
    by_cases sound : Garbles d group
    · exact .inl sound
    · rw [garbledKeys_eq_nil_iff.mpr sound, normalizeGroup?_nil]
      exact .inr rfl
  have failing {group : MetricGroup} (garbles : Garbles d group) :
      (normalizeGroup? record.daily day.iso (garbledKeys d group) group).map
        (fun made => (group, made)) = .error Breakdown.garbled := by
    rw [normalizeGroup?_garbled read day.iso garbles]
    rfl
  obtain ⟨group, garbles⟩ := garbles
  have all : group ∈ MetricGroup.all := by cases group <;> decide
  rw [normalizeOn?, mapM_error (fun group _ => (each group).symm.imp_right failing)
    ⟨group, all, failing garbles⟩]
  rfl

end Garbled

/-- A record that would make a day, were it not for the name of an entry at some depth. -/
structure Misnamed (d : Delivery) : Prop where
  accepted : (normalize d.shown).isOk
  garbles : ∃ group, Garbles d group

theorem normalizeDelivery_misnamed {d : Delivery} (misnamed : Misnamed d) :
    normalizeDelivery d = .error Breakdown.garbled := by
  obtain ⟨result, accepted⟩ := exists_ok misnamed.accepted
  obtain ⟨record, day, read, dated, -⟩ := normalize_ok accepted
  simp only [normalizeDelivery, read, dated, normalizeOn?_garbled read day misnamed.garbles]
  rfl

def intake (d : Delivery) : Except String (Snapshot × List Warning) :=
  (normalize d.shown).mapError (Refusal.messageOn d)

theorem toOption_intake (d : Delivery) : (intake d).toOption = (normalize d.shown).toOption := by
  rw [intake]
  cases normalize d.shown <;> rfl

theorem intake_refused {d : Delivery} :
    (∃ reason, intake d = .error reason) ↔ ¬(normalize d.shown).isOk := by
  rw [intake]
  cases normalize d.shown with
  | ok day => exact iff_of_false (fun refused => nomatch refused) fun refused => refused rfl
  | error refusal => exact iff_of_true ⟨_, rfl⟩ Bool.false_ne_true

theorem normalizeDelivery_named {d : Delivery} (named : ¬Misnamed d) :
    normalizeDelivery d = .ok (intake d) := by
  rw [normalizeDelivery, intake, normalize]
  cases read : readDaily d.shown with
  | error rejection => rfl
  | ok record =>
    simp only [normalizeRecord]
    cases dated : readDate record.daily with
    | error refusal => rfl
    | ok day =>
      -- The record is read and dated, so that it would be accepted if it had no such name.
      have sound (group : MetricGroup) (garbles : Garbles d group) : False := by
        refine named ⟨?_, group, garbles⟩
        simp only [normalize, read, normalizeRecord, dated]
        rfl
      simp only [normalizeOn?_sound day record.daily sound]
      rfl

theorem readDate_notDay {r : DailyRecord} {text : String}
    (refused : readDate r = .error (.notDay text)) : r.date = some text := by
  rw [readDate] at refused
  cases dated : r.date with
  | none => rw [dated] at refused; cases refused
  | some other =>
    simp only [dated] at refused
    split at refused
    · cases refused
    · cases named : Day.ofIso? other with
      | some day => rw [named] at refused; cases refused
      | none =>
        rw [named] at refused
        cases refused
        rfl

theorem date_shown {d : Delivery} {record : Record} {text : String}
    (read : readDaily d.shown = .ok record) (dated : record.daily.date = some text) :
    ∃ points, Delivery.textUnder d.given "date" = some points ∧ points.shown = text := by
  rw [← read_shown read, date_read, Delivery.given_shown, Delivery.at?_shown] at dated
  rw [Delivery.textUnder]
  cases under : Delivery.at? d.given "date" with
  | none => rw [under] at dated; cases dated
  | some value =>
    rw [under] at dated
    cases value with
    | text points => exact ⟨points, rfl, Option.some.inj dated⟩
    | _ => cases dated

theorem normalize_notDay {raw : Value} {text : String}
    (refused : normalize raw = .error (.notDay text)) :
    ∃ record, readDaily raw = .ok record ∧ record.daily.date = some text := by
  rw [normalize] at refused
  cases read : readDaily raw with
  | error rejection => rw [read] at refused; cases refused
  | ok record =>
    simp only [read, normalizeRecord] at refused
    cases dated : readDate record.daily with
    | ok day => simp only [dated, Except.map, reduceCtorEq] at refused
    | error refusal =>
      rw [dated] at refused
      obtain rfl := Except.error.inj refused
      exact ⟨record, rfl, readDate_notDay dated⟩

theorem messageOn_unicode {d : Delivery} (unicode : d.isUnicode) {refusal : Refusal}
    (refused : normalize d.shown = .error refusal) : refusal.messageOn d = refusal.message := by
  cases refusal with
  | invalid rejection => rfl
  | undated => rfl
  | notDay text =>
    obtain ⟨record, read, dated⟩ := normalize_notDay refused
    obtain ⟨points, given, seen⟩ := date_shown read dated
    have plain := Delivery.isUnicode_textUnder (Delivery.isUnicode_given unicode) given
    have literal : ((Delivery.textUnder d.given "date").getD []).quoted = Quoted.quoted text := by
      rw [given, Option.getD_some, ← seen, Points.eq_ofText plain, Points.quoted_ofText,
        Points.shown_ofText]
    exact congrArg Refusal.notDayMessage literal

theorem intake_unicode {d : Delivery} (unicode : d.isUnicode) :
    intake d = (normalize d.shown).mapError Refusal.message := by
  rw [intake]
  cases refused : normalize d.shown with
  | ok day => rfl
  | error refusal => exact congrArg Except.error (messageOn_unicode unicode refused)

end UsageMetrics.Daily
