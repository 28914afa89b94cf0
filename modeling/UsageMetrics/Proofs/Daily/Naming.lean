import UsageMetrics.Daily.Intake
import UsageMetrics.Proofs.Daily.Accepted

namespace UsageMetrics.Daily

open UsageMetrics.Metric UsageMetrics.Feed UsageMetrics.Text

def Named (key : EntityKey) : Prop := allBlank key.2 = false

theorem entryKey?_solid {dimension : Dimension} {t : Tag} {key : EntityKey}
    (found : entryKey? dimension t = some key) : Named key := by
  unfold entryKey? at found
  cases given : t.name with
  | none => simp [given] at found
  | some name =>
    rw [given] at found
    cases blank : allBlank name with
    | true => simp [blank] at found
    | false =>
      obtain rfl : (dimension, name) = key := by simpa [blank] using found
      exact blank

def Action.Names : Action → Prop
  | .add key _ => Named key
  | .raise key _ _ => Named key
  | _ => True

theorem groupFeed_names (r : DailyRecord) (group : MetricGroup) :
    ∀ a ∈ (groupFeed r group).actions, a.Names := by
  intro action member
  have solid {key : EntityKey} (touched : action.touched? = some key) : Named key := by
    have counted := List.mem_filterMap.mpr ⟨action, member, touched⟩
    have kept := (mem_touchedBy_groupFeed r group).mp counted
    obtain ⟨entry, -, own⟩ := List.mem_filterMap.mp kept
    exact entryKey?_solid own
  cases action with
  | add => exact solid rfl
  | raise => exact solid rfl
  | accept => trivial
  | custom => trivial

namespace Breakdown

variable (group : MetricGroup) (day : String)

def AllNamed (b : Breakdown) : Prop := ∀ key ∈ b.counts.keys, Named key

theorem apply_allNamed {b : Breakdown} (named : b.AllNamed) {action : Action}
    (names : action.Names) : (b.apply group day action).AllNamed := by
  have changed {touched : EntityKey} (f : Bucket → Bucket) (solid : Named touched) :
      (b.change touched f).AllNamed := by
    intro key member
    rcases Ledger.mem_keys_upsert.mp member with rfl | old
    · exact solid
    · exact named key old
  cases action with
  | add => exact changed _ names
  | raise => exact changed _ names
  | accept => exact named
  | custom => exact named

theorem run_allNamed {actions : List Action} (names : ∀ a ∈ actions, a.Names) :
    (run group day actions).AllNamed := by
  suffices kept : ∀ b : Breakdown, b.AllNamed → (actions.foldl (apply group day) b).AllNamed from
    kept .empty fun _ member => nomatch member
  induction actions with
  | nil => exact fun _ named => named
  | cons action rest ih =>
    obtain ⟨first, others⟩ := List.forall_mem_cons.mp names
    exact fun b named => ih others _ (apply_allNamed group day named first)

theorem snapshot?_ok {b : Breakdown} (named : ∀ key ∈ b.counts.keys, key.2 ≠ "")
    (engagedUsers : Int) :
    b.snapshot? group engagedUsers = .ok (b.snapshot group engagedUsers) := by
  refine if_neg fun unnamed => ?_
  obtain ⟨key, member, missing⟩ := List.any_eq_true.mp unnamed
  exact named key member (String.isEmpty_iff.mp missing)

/-- Blanks are more than a snapshot asks for. -/
theorem AllNamed.snapshot?_ok {b : Breakdown} (named : b.AllNamed) (engagedUsers : Int) :
    b.snapshot? group engagedUsers = .ok (b.snapshot group engagedUsers) := by
  refine Breakdown.snapshot?_ok group (fun key member missing => ?_) engagedUsers
  have solid := named key member
  rw [Named, missing] at solid
  cases solid

end Breakdown

theorem normalizeGroup_snapshot? (r : DailyRecord) (day : String) (group : MetricGroup) :
    (Breakdown.run group day (groupFeed r group).actions).snapshot? group
        (groupFeed r group).engagedUsers = .ok (normalizeGroup r day group).1 :=
  (Breakdown.run_allNamed group day (groupFeed_names r group)).snapshot?_ok group _

end UsageMetrics.Daily
