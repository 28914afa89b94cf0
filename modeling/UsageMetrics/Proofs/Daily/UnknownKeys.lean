import UsageMetrics.Daily.Intake
import UsageMetrics.Proofs.Feed.Change

namespace UsageMetrics.Feed

mutual

def Kind.keys : Kind → List String
  | .one shape => shape.keys
  | .many shape => shape.keys
  | _ => []

def Shape.keys : Shape → List String
  | .mk _ fields => keysOf fields

def keysOf : List (String × Kind) → List String
  | [] => []
  | (name, kind) :: rest => name :: kind.keys ++ keysOf rest

end

inductive UnknownKey : Kind → Value → Value → Prop where
  | mk {name key : String} {fields : List (String × Kind)} {given others : List (String × Value)}
      (unknown : key ∉ fields.map Prod.fst) (own : key ≠ repairedKey)
      (outside : SameBeside key given others) :
      UnknownKey (.one (.mk name fields)) (.object given) (.object others)

namespace UnknownKey

variable {kind : Kind} {value other : Value}

theorem alike (differ : UnknownKey kind value other) : Value.Alike id kind value other := by
  obtain ⟨unknown, own, outside⟩ := differ
  refine .object (outside _ own.symm) fun field declared => ?_
  have known := outside field.1 fun same => unknown (same ▸ List.mem_map_of_mem declared)
  rw [Value.at?_congr known]
  cases found : Value.at? _ field.1 with
  | none => exact .none
  | some value => exact .some (.refl _ (Value.ne_null_of_at? found))

theorem objects {shape : Shape} (differ : UnknownKey (.one shape) value other) :
    ∃ given others, value = .object given ∧ other = .object others := by
  obtain ⟨-, -, -⟩ := differ
  exact ⟨_, _, rfl, rfl⟩

end UnknownKey

end UsageMetrics.Feed

namespace UsageMetrics.Daily

open UsageMetrics.Feed

/-- Nothing of a day depends on keys that its records are not declared to have. -/
theorem normalize_unknownKey {raw other : Value}
    (differ : ChangedAt UnknownKey (.one .daily) raw other) : normalize raw = normalize other := by
  obtain ⟨given, others, rfl, rfl⟩ := differ.objects UnknownKey.objects
  have unseen : Record.mapRepaired id = id := funext Record.mapRepaired_id
  have alike := readDaily_alike (differ.alike UnknownKey.alike)
  have read : readDaily (.object given) = readDaily (.object others) := by
    simpa only [unseen, Except.map_id, id] using alike
  unfold normalize
  rw [read]

theorem normalize_unknownKey_editor :
    normalize (.object [("date", .text "2025-01-01"), ("copilot_ide_chat", .object
        [("editors", .list [.object [("name", .text "vim"), ("version", .list [.integer 9])]])])]) =
      normalize (.object [("date", .text "2025-01-01"), ("copilot_ide_chat", .object
        [("editors", .list [.object [("name", .text "vim")]])])]) := by
  refine normalize_unknownKey (.inField rfl (by decide) [_] [] (by decide) ?_)
  refine .inField rfl (by decide) [] [] rfl (.element [] [] rfl rfl (.here ?_))
  exact .mk (by decide) (by decide) (.erased "version" _ [_] [])

/-- The name under which a record may claim repaired fields is a key that the feed does not
have, but that is not ignored: its value can cost the whole day, or add a warning. -/
theorem repairedKey_not_ignored :
    repairedKey ∉ Shape.daily.keys ∧
      (normalize (.object [("date", .text "2025-01-01")])).isOk = true ∧
      (normalize (.object [("date", .text "2025-01-01"), (repairedKey, .integer 5)])).isOk = false ∧
      (normalize (.object [("date", .text "2025-01-01"),
          ("copilot_ide_chat", .object [])])).map (fun made => made.2.length) = .ok 0 ∧
      (normalize (.object [("date", .text "2025-01-01"), ("copilot_ide_chat", .object
          [(repairedKey, .list [.text "x"])])])).map (fun made => made.2.length) = .ok 1 := by
  decide

end UsageMetrics.Daily
