import UsageMetrics.Proofs.Daily.Delivery
import UsageMetrics.Proofs.Window.Intake
import UsageMetrics.Proofs.Window.Summary

namespace UsageMetrics.Window

open UsageMetrics.Daily UsageMetrics.Feed UsageMetrics.Metric UsageMetrics.Text

def Rejected (d : Delivery) : Prop := ∃ reason, normalizeDelivery d = .ok (.error reason)

theorem rejected_iff {d : Delivery} : Rejected d ↔ ¬(Daily.normalize d.shown).isOk := by
  by_cases misnamed : Misnamed d
  · rw [Rejected, normalizeDelivery_misnamed misnamed]
    exact iff_of_false (fun rejected => nomatch rejected) fun refused => refused misnamed.accepted
  · simpa only [Rejected, normalizeDelivery_named misnamed, Except.ok.injEq] using intake_refused

section Made

theorem ofMade_balance (made : List (Except String (Snapshot × List Warning))) :
    (ofMade made).2.skippedRecords + (ofMade made).1.length = made.length := by
  rw [ofMade, List.length_map, reasonsIn]
  refine length_picked_add_kept (fun result i => ?_) made 0
  cases result <;> rfl

theorem ofMade_snapshots (ds : List Delivery) :
    (ofMade (ds.map intake)).1 = (normalizeAll (ds.map Delivery.shown)).1 := by
  simp only [ofMade, normalizeAll, acceptedDays, List.filterMap_map, Function.comp_def,
    toOption_intake]

theorem reasonsIn_values (raws : List Value) :
    reasonsIn (raws.map fun raw => (Daily.normalize raw).mapError Refusal.message) =
      (refusals raws).map fun (index, refusal) => skippedReason index refusal := by
  rw [reasonsIn, refusals, List.map_filterMap, List.zipIdx_map, List.filterMap_map]
  congr 1
  funext (raw, index)
  simp only [Function.comp_apply, Prod.map]
  cases Daily.normalize raw <;> rfl

theorem ofMade_values (raws : List Value) :
    ofMade (raws.map fun raw => (Daily.normalize raw).mapError Refusal.message) =
      normalizeAll raws := by
  have days (raw : Value) :
      ((Daily.normalize raw).mapError Refusal.message).toOption =
        (Daily.normalize raw).toOption := by
    cases Daily.normalize raw <;> rfl
  simp only [ofMade, reasonsIn_values, List.filterMap_map, Function.comp_def, days,
    List.length_map]
  rfl

end Made

section Window

variable {ds : List Delivery}

theorem normalizeDeliveries_misnamed (misnamed : ∃ d ∈ ds, Misnamed d) :
    normalizeDeliveries ds = .error Breakdown.garbled := by
  have each (d : Delivery) : normalizeDelivery d = .ok (intake d) ∨
      normalizeDelivery d = .error Breakdown.garbled := by
    by_cases misnamed : Misnamed d
    · exact .inr (normalizeDelivery_misnamed misnamed)
    · exact .inl (normalizeDelivery_named misnamed)
  obtain ⟨d, member, misnamed⟩ := misnamed
  rw [normalizeDeliveries, mapM_error (fun d _ => each d)
    ⟨d, member, normalizeDelivery_misnamed misnamed⟩]
  rfl

theorem normalizeDeliveries_named (named : ¬∃ d ∈ ds, Misnamed d) :
    normalizeDeliveries ds = .ok (ofMade (ds.map intake)) := by
  rw [normalizeDeliveries, mapM_ok fun d member =>
    normalizeDelivery_named fun misnamed => named ⟨d, member, misnamed⟩]
  rfl

theorem snapshots_eq_nil_iff :
    (normalizeAll (ds.map Delivery.shown)).1 = [] ↔ ∀ d ∈ ds, Rejected d := by
  constructor
  · intro nothing d member
    exact rejected_iff.mpr fun accepted =>
      snapshots_ne_nil ⟨d.shown, List.mem_map_of_mem member, accepted⟩ nothing
  · intro rejected
    refine List.eq_nil_iff_forall_not_mem.mpr fun s inWindow => ?_
    obtain ⟨raw, shown, warnings, accepted⟩ := mem_snapshots.mp inWindow
    obtain ⟨d, member, rfl⟩ := List.mem_map.mp shown
    exact rejected_iff.mp (rejected d member) (by rw [accepted]; rfl)

theorem deliveredSummary_misnamed (settings : Settings) (misnamed : ∃ d ∈ ds, Misnamed d) :
    deliveredSummary settings ds = .error (.rejected Breakdown.garbled) := by
  rw [deliveredSummary, normalizeDeliveries_misnamed misnamed]
  rfl

theorem not_misnamed {d : Delivery} (unicode : d.isUnicode) : ¬Misnamed d := by
  rintro ⟨-, group, entry, member, name, given, garbled⟩
  have plain := deliveredEntries_unicode unicode group entry member
  rw [Delivery.isUnicode_textUnder plain given] at garbled
  cases garbled

theorem deliveredSummary_unicode (settings : Settings) (unicode : ∀ d ∈ ds, d.isUnicode) :
    deliveredSummary settings ds = usageSummary settings (.list (ds.map Delivery.shown)) := by
  have named : ¬∃ d ∈ ds, Misnamed d := by
    rintro ⟨d, member, misnamed⟩
    exact not_misnamed (unicode d member) misnamed
  have plainly : ds.map intake =
      (ds.map Delivery.shown).map fun raw => (Daily.normalize raw).mapError Refusal.message := by
    rw [List.map_map]
    exact List.map_congr_left fun d member => intake_unicode (unicode d member)
  rw [deliveredSummary, normalizeDeliveries_named named, plainly, ofMade_values, usageSummary_list]
  rfl

theorem deliveredSummary_ofMade (settings : Settings) (named : ¬∃ d ∈ ds, Misnamed d) :
    deliveredSummary settings ds =
      (summarizeSnapshots settings (normalizeAll (ds.map Delivery.shown)).1
        (ofMade (ds.map intake)).2).mapError ofSummaryFailure := by
  rw [deliveredSummary, normalizeDeliveries_named named, ← ofMade_snapshots]
  rfl

theorem deliveredSummary_named {settings : Settings} (plain : settings.Plain)
    (named : ¬∃ d ∈ ds, Misnamed d) :
    (∀ d ∈ ds, Rejected d) ∧
        deliveredSummary settings ds = .ok (.noData ⟨.telemetry, ds.length, ds.length⟩) ∨
      (¬∀ d ∈ ds, Rejected d) ∧
        ∃ summary, deliveredSummary settings ds = .ok (.found summary) := by
  rw [deliveredSummary_ofMade settings named]
  by_cases nothing : (normalizeAll (ds.map Delivery.shown)).1 = []
  · have balance := ofMade_balance (ds.map intake)
    rw [ofMade_snapshots, nothing, List.length_nil, Nat.add_zero, List.length_map] at balance
    rw [nothing, summarizeSnapshots_nil, balance]
    exact .inl ⟨snapshots_eq_nil_iff.mp nothing, by simp [ofMade, Except.mapError]⟩
  · obtain ⟨top, limit⟩ := plain.readLimit_ok
    obtain ⟨range, s, -, -, found⟩ := days?_found plain (snapshots_complete _) nothing
    rw [summarizeSnapshots_of_days limit found]
    exact .inr ⟨fun rejected => nothing (snapshots_eq_nil_iff.mpr rejected), _, rfl⟩

/-- A window of whatever is delivered has a summary, or an account of records none of which makes a
day, unless the name of an entity is no Unicode in a record that would make one. -/
theorem deliveredSummary_outcome {settings : Settings} (plain : settings.Plain)
    (ds : List Delivery) :
    (∀ failure, deliveredSummary settings ds = .error failure ↔
      failure = .rejected Breakdown.garbled ∧ ∃ d ∈ ds, Misnamed d) ∧
    (deliveredSummary settings ds = .ok (.noData ⟨.telemetry, ds.length, ds.length⟩) ↔
      ∀ d ∈ ds, Rejected d) ∧
    ((∃ summary, deliveredSummary settings ds = .ok (.found summary)) ↔
      ¬(∃ d ∈ ds, Misnamed d) ∧ ¬∀ d ∈ ds, Rejected d) ∧
    ((∀ d ∈ ds, d.isUnicode) →
      deliveredSummary settings ds = usageSummary settings (.list (ds.map Delivery.shown))) := by
  refine and_assoc.mp (and_assoc.mp ⟨?_, deliveredSummary_unicode settings⟩)
  -- The three answers exclude each other, so each is told by the case that gives it.
  by_cases misnamed : ∃ d ∈ ds, Misnamed d
  · have escapes := deliveredSummary_misnamed settings misnamed
    have kept : ¬∀ d ∈ ds, Rejected d := by
      obtain ⟨d, member, misnamed⟩ := misnamed
      exact fun rejected => rejected_iff.mp (rejected d member) misnamed.accepted
    rw [escapes]
    simp [misnamed, kept, eq_comm]
  · rcases deliveredSummary_named plain misnamed with ⟨rejected, outcome⟩ | ⟨kept, summary, outcome⟩
    · rw [outcome]
      simpa [misnamed] using rejected
    · rw [outcome]
      simp [misnamed, kept]

end Window

def record (fields : List (String × Delivery)) : Delivery :=
  .object (fields.map fun (key, value) => (Points.ofText key, value))

def plainText (s : String) : Delivery := .text (Points.ofText s)

def namedDay (date name : Points) : Delivery :=
  record [("date", .text date), ("copilot_dotcom_chat",
    record [("models", .list [record [("name", .text name)]])])]

/-- A day with a name that is one half of a pair. -/
def garbledDay : Delivery := namedDay (Points.ofText "2025-01-01") [.ofUnit 0xd800]

theorem garbledDay_misnamed : Misnamed garbledDay := ⟨by decide, .dotcomChat, by decide⟩

/-- A record that readers accept ends the work on its window. -/
theorem garbledName_escapes :
    deliveredSummary .default [garbledDay] = .error (.rejected Breakdown.garbled) :=
  deliveredSummary_misnamed _ ⟨garbledDay, .head _, garbledDay_misnamed⟩

def oddDeliveries : List Delivery :=
  [.null, .list [garbledDay], record [], .integer (-1), namedDay [] [.ofUnit 0xd800],
    namedDay [.char '2', .ofUnit 0xd801] [.ofUnit 0xd800],
    namedDay (Points.ofText "2025-02-29") [.char 'm']]

/-- A day with halves anywhere but in a name. -/
def tornDay : Delivery :=
  .object (([.ofUnit 0xd802], plainText "x") ::
    (namedDay (Points.ofText "2025-01-01" ++ [.ofUnit 0xd803]) [.char (Char.ofNat 0x1f600)]).given)

theorem oddDeliveries_outcome : (∀ d ∈ oddDeliveries, Rejected d) ∧
    deliveredSummary .default oddDeliveries = .ok (.noData ⟨.telemetry, 7, 7⟩) ∧
    (∃ summary, deliveredSummary .default (tornDay :: oddDeliveries) = .ok (.found summary)) ∧
    deliveredSummary .default (garbledDay :: oddDeliveries) =
      .error (.rejected Breakdown.garbled) := by
  have plain := Settings.default_plain .max
  have refused : ∀ d ∈ oddDeliveries, ¬(Daily.normalize d.shown).isOk := by decide
  have rejected : ∀ d ∈ oddDeliveries, Rejected d := fun d member =>
    rejected_iff.mpr (refused d member)
  have torn : ¬Misnamed tornDay := by
    rintro ⟨-, group, garbles⟩
    revert garbles
    cases group <;> decide
  have kept : ¬Rejected tornDay := by
    rw [rejected_iff, not_not]
    decide
  refine ⟨rejected, (deliveredSummary_outcome plain oddDeliveries).2.1.mpr rejected,
    (deliveredSummary_outcome plain _).2.2.1.mpr ⟨?_, fun all => kept (all _ (.head _))⟩,
    ((deliveredSummary_outcome plain _).1 _).mpr ⟨rfl, garbledDay, .head _, garbledDay_misnamed⟩⟩
  rintro ⟨d, member, misnamed⟩
  rcases List.mem_cons.mp member with rfl | odd
  · exact torn misnamed
  · exact refused d odd misnamed.accepted

end UsageMetrics.Window
