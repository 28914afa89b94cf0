import UsageMetrics.Proofs.Window.Places
import UsageMetrics.Proofs.Window.Summary

namespace UsageMetrics.Window

open UsageMetrics.Calendar UsageMetrics.Daily UsageMetrics.Feed

def AcceptedAt (raws : List Value) (i : Nat) (day : Snapshot × List Warning) : Prop :=
  ∃ raw, raws[i]? = some raw ∧ normalizeSnapshot (.integer i) raw = .ok day

def SkippedAt (raws : List Value) (i : Nat) (reason : String) : Prop :=
  ∃ raw, raws[i]? = some raw ∧ ∃ failure, normalizeSnapshot (.integer i) raw = .error failure ∧
    reason = "index " ++ toString i ++ ": " ++ failure.message

structure Report.Accounts (report : Report) (raws : List Value)
    (days : List (Snapshot × List Warning)) : Prop where
  accepted : InOrder (AcceptedAt raws) days
  skipped : InOrder (SkippedAt raws) report.skippedReasons
  inputRecords : report.inputRecords = raws.length
  skippedRecords : report.skippedRecords = report.skippedReasons.length
  balance : report.skippedRecords + days.length = report.inputRecords
  droppedEntities : report.droppedEntities = (days.flatMap Prod.snd).length

theorem normalizeSnapshot_ok {index raw : Value} {day : Snapshot × List Warning} :
    normalizeSnapshot index raw = .ok day ↔ Daily.normalize raw = .ok day := by
  rw [normalizeSnapshot]
  cases Daily.normalize raw <;> simp [Except.mapError]

theorem normalizeSnapshot_error {index raw : Value} {failure : Failure} :
    normalizeSnapshot index raw = .error failure ↔
      ∃ refusal, Daily.normalize raw = .error refusal ∧
        failure = .phase (.ofRefusal index refusal) := by
  rw [normalizeSnapshot]
  cases Daily.normalize raw <;> simp [Except.mapError, eq_comm]

theorem acceptedDays_inOrder (raws : List Value) :
    InOrder (AcceptedAt raws) (acceptedDays raws) := by
  refine inOrder_kept _ fun i day => exists_congr fun raw => and_congr_right fun _ => ?_
  rw [normalizeSnapshot_ok, toOption_eq_some_iff]

theorem message_ofRefusal (index : Value) (refusal : Refusal) :
    (Failure.phase (.ofRefusal index refusal)).message = refusal.message := rfl

theorem skippedReasons_inOrder (raws : List Value) :
    InOrder (SkippedAt raws) (normalizeAll raws).2.skippedReasons := by
  simp only [normalizeAll, refusals, List.map_filterMap]
  refine inOrder_picked _ fun i text => exists_congr fun raw => and_congr_right fun _ => ?_
  simp only [normalizeSnapshot_error]
  cases Daily.normalize raw with
  | ok day => simp
  | error refusal =>
    constructor
    · rintro ⟨_, ⟨other, same, rfl⟩, rfl⟩
      obtain rfl := Except.error.inj same
      rw [message_ofRefusal]
      rfl
    · intro told
      refine ⟨_, ⟨refusal, rfl, rfl⟩, ?_⟩
      rw [message_ofRefusal, ← Option.some.inj told]
      rfl

theorem skipped_add_accepted (raws : List Value) :
    (refusals raws).length + (acceptedDays raws).length = raws.length := by
  refine length_picked_add_kept (fun raw i => ?_) raws 0
  dsimp only
  cases Daily.normalize raw <;> rfl

theorem normalizeAll_accounts (raws : List Value) :
    (normalizeAll raws).2.Accounts raws (acceptedDays raws) where
  accepted := acceptedDays_inOrder raws
  skipped := skippedReasons_inOrder raws
  inputRecords := rfl
  skippedRecords := by simp [normalizeAll]
  balance := skipped_add_accepted raws
  droppedEntities := List.length_flatMap.symm

inductive Padded : List Value → List Value → Prop where
  | nil : Padded [] []
  | kept (raw : Value) {raws others : List Value} (rest : Padded raws others) :
      Padded (raw :: raws) (raw :: others)
  | refused {raw : Value} {raws others : List Value} (refused : ¬(Daily.normalize raw).isOk)
      (rest : Padded raws others) : Padded raws (raw :: others)

theorem Padded.interspersed {raws others : List Value} (padded : Padded raws others) :
    Interspersed (fun raw => ¬(Daily.normalize raw).isOk) raws others := by
  induction padded with
  | nil => exact .nil
  | kept raw rest ih => exact .kept raw ih
  | refused refused rest ih => exact .added refused ih

theorem Padded.acceptedDays_eq {raws others : List Value} (padded : Padded raws others) :
    acceptedDays others = acceptedDays raws :=
  padded.interspersed.filterMap_eq fun _ refused => toOption_eq_none refused

def twoDays : List Value :=
  [.object [("date", .text "2025-03-02"), ("copilot_ide_chat", .object
      [("editors", .list [.object [("name", .text " "), ("models", .list [])]])])],
    .object [("date", .text "2025-03-01")]]

def twoDaysOfFive : List Value :=
  [.list twoDays] ++ twoDays.take 1 ++ [.object [], .object [("date", .text "2025-02-30")]] ++
    twoDays.drop 1

end UsageMetrics.Window
