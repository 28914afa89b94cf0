import UsageMetrics.Proofs.Daily.Completeness
import UsageMetrics.Proofs.Daily.Intake
import UsageMetrics.Proofs.Feed.Entries
import UsageMetrics.Proofs.Feed.Unreadable

namespace UsageMetrics.Feed

def Record.AgreesBeside (key : String) (r s : Record) : Prop :=
  ∀ name, name ≠ key → r.find? name = s.find? name

inductive Value.AgreesBeside (key : String) : Value → Value → Prop where
  | object {given others : List (String × Value)}
      (outside : ∀ name, name ≠ key → given.lookup name = others.lookup name) :
      AgreesBeside key (.object given) (.object others)
  | snapshot {record other : Record} (outside : record.AgreesBeside key other) :
      AgreesBeside key (.snapshot record) (.snapshot other)

theorem Value.AgreesBeside.replaced (key : String) (value other : Value)
    (before after : List (String × Value)) :
    AgreesBeside key (.object (before ++ (key, value) :: after))
      (.object (before ++ (key, other) :: after)) :=
  .object (SameBeside.replaced key value other before after)

theorem Shape.read_agreesBeside {key : String} {given others : List (String × Value)}
    (outside : ∀ name, name ≠ key → given.lookup name = others.lookup name) (shape : Shape) :
    (shape.read (.object given)).1.AgreesBeside key (shape.read (.object others)).1 := by
  intro name differ
  rw [find?_read, find?_read]
  cases shape.fields.lookup name with
  | none => rfl
  | some kind =>
    have same := readField_congr (name, kind) (Value.at?_congr (outside name differ))
    rw [Option.map_some, Option.map_some, same]

theorem readDaily_agreesBeside {key : String} {raw other : Value}
    (beside : raw.AgreesBeside key other) {r s : Record} (read : readDaily raw = .ok r)
    (read' : readDaily other = .ok s) : r.AgreesBeside key s := by
  cases beside with
  | object outside =>
    obtain ⟨-, rfl⟩ := readDaily_object.mp read
    obtain ⟨-, rfl⟩ := readDaily_object.mp read'
    exact Shape.read_agreesBeside outside .daily
  | snapshot outside =>
    cases read
    cases read'
    exact outside

end UsageMetrics.Feed

namespace UsageMetrics.Daily

open UsageMetrics.Calendar UsageMetrics.Metric UsageMetrics.Feed

theorem groupFeed_field (r : DailyRecord) (group : MetricGroup) :
    (groupFeed r group).field = recordKey group := by
  cases group <;> rfl

theorem recordKey_injective {group other : MetricGroup} (same : recordKey group = recordKey other) :
    group = other := by
  revert same
  cases group <;> cases other <;> decide

theorem recordKey_own (group : MetricGroup) :
    "date" ≠ recordKey group ∧ "total_active_users" ≠ recordKey group ∧
      "total_engaged_users" ≠ recordKey group := by
  cases group <;> decide

/-- A group is collected from the record under its key and from nothing else. -/
theorem groupFeed_congr {r s : Record} {group : MetricGroup}
    (same : r.one (recordKey group) = s.one (recordKey group)) :
    groupFeed r.daily group = groupFeed s.daily group := by
  cases group <;> simp only [recordKey] at same <;> simp only [groupFeed, Record.daily, same]

namespace Snapshot

structure AgreesBeside (group : MetricGroup) (s t : Snapshot) : Prop where
  day : s.day = t.day
  activeUsers : s.activeUsers = t.activeUsers
  engagedUsers : s.engagedUsers = t.engagedUsers
  listed : ∀ other, other ≠ group → s.listed other = t.listed other

end Snapshot

theorem listed_normalizeOn (day : Day) (r : DailyRecord) (group : MetricGroup) :
    (normalizeOn day r).1.listed group = (normalizeGroup r day.iso group).1 := by
  cases group <;> rfl

theorem normalizeGroup_congr {r s : DailyRecord} {group : MetricGroup}
    (same : groupFeed r group = groupFeed s group) (day : String) :
    (normalizeGroup r day group).1 = (normalizeGroup s day group).1 := by
  simp only [normalizeGroup, same]

theorem normalizeOn_agreesBeside {group : MetricGroup} {r s : Record}
    (beside : r.AgreesBeside (recordKey group) s) (day : Day) :
    (normalizeOn day r.daily).1.AgreesBeside group (normalizeOn day s.daily).1 where
  day := rfl
  activeUsers := by
    simp only [normalizeOn, ofGroups, Record.daily, Record.count,
      beside _ (recordKey_own group).2.1]
  engagedUsers := by
    simp only [normalizeOn, ofGroups, Record.daily, Record.count,
      beside _ (recordKey_own group).2.2]
  listed other differ := by
    have key : recordKey other ≠ recordKey group := fun same => differ (recordKey_injective same)
    have feed : groupFeed r.daily other = groupFeed s.daily other := by
      apply groupFeed_congr
      simp only [Record.one, beside _ key]
    rw [listed_normalizeOn, listed_normalizeOn, normalizeGroup_congr feed]

/-- The contents of a group are seen in no other part of the day. -/
theorem normalize_agreesBeside {group : MetricGroup} {raw other : Value}
    (beside : raw.AgreesBeside (recordKey group) other) {made made' : Snapshot × List Warning}
    (accepted : normalize raw = .ok made) (accepted' : normalize other = .ok made') :
    made.1.AgreesBeside group made'.1 := by
  obtain ⟨record, day, read, dated, rfl⟩ := normalize_ok accepted
  obtain ⟨record', day', read', dated', rfl⟩ := normalize_ok accepted'
  have beside := readDaily_agreesBeside beside read read'
  have same : readDate record.daily = readDate record'.daily := by
    simp only [readDate, Record.daily, Record.text, beside _ (recordKey_own group).1]
  obtain rfl : day = day' := Except.ok.inj (dated.symm.trans (same.trans dated'))
  exact normalizeOn_agreesBeside beside day

end UsageMetrics.Daily
