import Mathlib.Algebra.Order.BigOperators.Group.List
import Mathlib.Algebra.Order.Ring.Int
import UsageMetrics.Proofs.Daily.Completeness
import UsageMetrics.Proofs.Daily.Intake

namespace UsageMetrics.Metric

/-- What is made to a user, who may accept it. -/
inductive Offer where
  | suggestions
  | lines

def Offer.made : Offer → Counter
  | .suggestions => .suggestions
  | .lines => .linesSuggested

def Offer.accepted : Offer → Counter
  | .suggestions => .acceptances
  | .lines => .linesAccepted

theorem Offer.made_event (offer : Offer) : offer.made ≠ .engagedUsers := by
  cases offer <;> decide

theorem Offer.accepted_event (offer : Offer) : offer.accepted ≠ .engagedUsers := by
  cases offer <;> decide

def Counts.Coherent (c : Counts) : Prop :=
  ∀ offer : Offer, 0 ≤ c.get offer.accepted ∧ c.get offer.accepted ≤ c.get offer.made

def Counts.EventsNonneg (c : Counts) : Prop :=
  ∀ counter, counter ≠ .engagedUsers → 0 ≤ c.get counter

theorem Counts.coherent_of_sum {c : Counts} {listed : List Counts}
    (sums : ∀ counter, c.get counter = (listed.map fun d => d.get counter).sum)
    (each : ∀ d ∈ listed, d.Coherent) : c.Coherent := by
  intro offer
  rw [sums, sums]
  constructor
  · apply List.sum_nonneg
    intro n member
    obtain ⟨d, inListed, rfl⟩ := List.mem_map.mp member
    exact (each d inListed offer).1
  · exact List.sum_le_sum fun d inListed => (each d inListed offer).2

end UsageMetrics.Metric

namespace UsageMetrics.Feed

/-- No entry of a language accepts more than it was offered, and no group has more users than its
day. -/
def DailyRecord.Coherent (r : DailyRecord) : Prop :=
  (∀ e ∈ r.completions.editors, ∀ m ∈ e.models, ∀ l ∈ m.languages,
    l.acceptances ≤ l.suggestions ∧ l.linesAccepted ≤ l.linesSuggested) ∧
  r.completions.engagedUsers ≤ r.activeUsers ∧ r.ideChat.engagedUsers ≤ r.activeUsers ∧
  r.dotcomChat.engagedUsers ≤ r.activeUsers ∧ r.pullRequests.engagedUsers ≤ r.activeUsers

instance (r : DailyRecord) : Decidable r.Coherent := inferInstanceAs (Decidable (_ ∧ _))

end UsageMetrics.Feed

namespace UsageMetrics.Daily

open UsageMetrics.Calendar UsageMetrics.Metric UsageMetrics.Feed

theorem innermost_coherent {r : DailyRecord} (coherent : r.Coherent) (group : MetricGroup)
    (offer : Offer) : ∀ event ∈ r.innermost group, event offer.accepted ≤ event offer.made := by
  intro event member
  cases group with
  | codeCompletions =>
    simp only [DailyRecord.innermost, List.mem_flatMap, List.mem_map] at member
    obtain ⟨e, inGroup, m, inEditor, l, inModel, rfl⟩ := member
    obtain ⟨suggestions, lines⟩ := coherent.1 e inGroup m inEditor l inModel
    cases offer with
    | suggestions => exact suggestions
    | lines => exact lines
  -- The events of the other groups are no offers.
  | ideChat =>
    simp only [DailyRecord.innermost, List.mem_flatMap, List.mem_map] at member
    obtain ⟨e, -, m, -, rfl⟩ := member
    cases offer <;> exact Nat.le_refl 0
  | dotcomChat =>
    obtain ⟨m, -, rfl⟩ := List.mem_map.mp member
    cases offer <;> exact Nat.le_refl 0
  | pullRequests =>
    simp only [DailyRecord.innermost, List.mem_flatMap, List.mem_map] at member
    obtain ⟨p, -, m, -, rfl⟩ := member
    cases offer <;> exact Nat.le_refl 0

namespace Bucket

/-- What neither measured amounts nor raises of users take from the counts of an entity. -/
structure Kept (events : List (Counter → Nat)) (holds : Counts → Prop) : Prop where
  fresh : holds (counts .empty)
  addAll : ∀ amounts, Measured events amounts → ∀ b : Bucket, holds (counts b) →
    holds (counts (b.addAll amounts))
  raise : ∀ users, ∀ b : Bucket, holds (counts b) →
    holds (counts (b.raise Counter.engagedUsers.label users))

variable {events : List (Counter → Nat)}

theorem get_raise_event (b : Bucket) {counter : Counter} (event : counter ≠ .engagedUsers)
    (users : Int) :
    (counts (b.raise Counter.engagedUsers.label users)).get counter = (counts b).get counter := by
  have differ : counter.label ≠ Counter.engagedUsers.label := fun same =>
    event (Counter.label_injective same)
  rw [get_counts, get_counts, get_raise_ne b differ]

theorem coherent_kept
    (sound : ∀ offer : Offer, ∀ event ∈ events, event offer.accepted ≤ event offer.made) :
    Kept events Counts.Coherent where
  fresh offer := by simp [get_counts]
  addAll amounts measured b coherent offer := by
    obtain ⟨event, known, counted⟩ := measured
    have before := coherent offer
    have within : event offer.accepted ≤ event offer.made := by
      rcases known with nothing | listed
      · rw [nothing, nothing]
      · exact sound offer event listed
    simp only [get_counts, get_addAll, counted _ offer.accepted_event,
      counted _ offer.made_event] at before ⊢
    omega
  raise users b coherent offer := by
    rw [get_raise_event b offer.accepted_event, get_raise_event b offer.made_event]
    exact coherent offer

theorem eventsNonneg_kept : Kept events Counts.EventsNonneg where
  fresh counter _ := by simp [get_counts]
  addAll amounts measured b nonneg counter event := by
    obtain ⟨amount, -, counted⟩ := measured
    have before := nonneg counter event
    simp only [get_counts, get_addAll, counted counter event] at before ⊢
    omega
  raise users b nonneg counter event := by
    rw [get_raise_event b event]
    exact nonneg counter event

end Bucket

section Recount

variable {events : List (Counter → Nat)} {holds : Counts → Prop}
  (kept : Bucket.Kept events holds)

include kept

theorem recount_keeps {action : Action} (change : action.Measures events ∨ action.RaisesUsers)
    {counts : Ledger EntityKey Bucket}
    (held : ∀ entry ∈ counts.entries, holds (Bucket.counts entry.2)) :
    ∀ entry ∈ (Action.recount counts action).entries, holds (Bucket.counts entry.2) := by
  have old (key : EntityKey) : holds (Bucket.counts ((counts.get? key).getD .empty)) := by
    cases found : counts.get? key with
    | none => exact kept.fresh
    | some bucket => exact held (key, bucket) (Ledger.mem_entries_iff.mpr found)
  intro entry member
  -- Only the entity of the change differs from what it was.
  cases action with
  | add key amounts =>
    rcases change with measured | ⟨_, _, raise⟩
    · rcases Ledger.mem_upsert member with changed | same
      · rw [changed]
        exact kept.addAll amounts measured _ (old key)
      · exact held entry same
    · cases raise
  | raise key label users =>
    rcases change with measured | ⟨_, _, raise⟩
    · cases measured
    · cases raise
      rcases Ledger.mem_upsert member with changed | same
      · rw [changed]
        exact kept.raise users _ (old key)
      · exact held entry same
  | _ => exact held entry member

theorem foldl_recount_keeps {actions : List Action}
    (changes : ∀ action ∈ actions, action.Measures events ∨ action.RaisesUsers)
    {counts : Ledger EntityKey Bucket}
    (held : ∀ entry ∈ counts.entries, holds (Bucket.counts entry.2)) :
    ∀ entry ∈ (actions.foldl Action.recount counts).entries, holds (Bucket.counts entry.2) := by
  induction actions generalizing counts with
  | nil => exact held
  | cons action rest ih =>
    obtain ⟨first, others⟩ := List.forall_mem_cons.mp changes
    exact ih others (recount_keeps kept first held)

end Recount

theorem normalizeGroup_keeps {r : DailyRecord} {group : MetricGroup} {holds : Counts → Prop}
    (kept : Bucket.Kept (r.innermost group) holds) (day : String) :
    ∀ e ∈ (normalizeGroup r day group).1.entities, holds e.counts := by
  intro e member
  have start : ∀ entry ∈ Breakdown.empty.counts.entries, holds (Bucket.counts entry.2) := by
    intro entry member
    cases member
  obtain ⟨entry, inCounts, rfl⟩ := List.mem_map.mp member
  rw [Breakdown.counts_run] at inCounts
  exact foldl_recount_keeps kept (groupFeed_changes r group) start entry inCounts

theorem normalizeGroup_coherent {r : DailyRecord} (coherent : r.Coherent) (day : String)
    (group : MetricGroup) : ∀ e ∈ (normalizeGroup r day group).1.entities, e.counts.Coherent :=
  normalizeGroup_keeps (Bucket.coherent_kept (innermost_coherent coherent group)) day

structure Snapshot.Coherent (s : Snapshot) : Prop where
  counts : ∀ listed ∈ s.groups, ∀ e ∈ listed.2.entities, e.counts.Coherent
  users : ∀ group, (s.listed group).engagedUsers ≤ s.activeUsers

theorem normalizeOn_coherent {r : DailyRecord} (coherent : r.Coherent) (day : Day) :
    (normalizeOn day r).1.Coherent where
  counts := by
    intro listed member
    obtain ⟨_, inGroups, rfl⟩ := List.mem_map.mp member
    obtain ⟨group, -, rfl⟩ := List.mem_map.mp inGroups
    exact normalizeGroup_coherent coherent day.iso group
  users := by
    obtain ⟨-, completions, ideChat, dotcomChat, pullRequests⟩ := coherent
    intro group
    cases group with
    | codeCompletions => exact Int.ofNat_le.mpr completions
    | ideChat => exact Int.ofNat_le.mpr ideChat
    | dotcomChat => exact Int.ofNat_le.mpr dotcomChat
    | pullRequests => exact Int.ofNat_le.mpr pullRequests

theorem Snapshot.Coherent.listed {s : Snapshot} (coherent : s.Coherent) (group : MetricGroup) :
    ∀ e ∈ (s.listed group).entities, e.counts.Coherent := by
  unfold Snapshot.listed
  cases found : s.group? group with
  | none => exact fun _ member => nomatch member
  | some listed =>
    obtain ⟨before, after, groups, -⟩ := List.lookup_eq_some_iff.mp found
    exact coherent.counts (group, listed) (by simp [groups])

end UsageMetrics.Daily
