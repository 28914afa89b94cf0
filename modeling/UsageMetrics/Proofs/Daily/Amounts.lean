import Mathlib.Algebra.BigOperators.Group.List.Basic
import UsageMetrics.Proofs.Daily.Accepted

namespace UsageMetrics.Daily

open UsageMetrics.Metric UsageMetrics.Feed

def amountAt (key : EntityKey) (label : String) (counts : Ledger EntityKey Bucket) : Int :=
  Bucket.get ((counts.get? key).getD .empty) label

theorem Bucket.get_raise (b : Bucket) (label other : String) (amount : Int) :
    get (b.raise label amount) other =
      if label == other then max (b.get other) amount else b.get other := by
  cases same : label == other with
  | true =>
    obtain rfl := eq_of_beq same
    simp [get, raise, Ledger.get?_upsert_self]
  | false =>
    have differ : other ≠ label := fun back => by simp [back] at same
    simp [get_raise_ne b differ]

namespace Action

def amend (key : EntityKey) (label : String) (amount : Int) : Action → Int
  | .add other amounts => if other == key then amount + amountUnder label amounts else amount
  | .raise other raised least =>
    if other == key && raised == label then max amount least else amount
  | _ => amount

theorem amountAt_recount (key : EntityKey) (label : String) (counts : Ledger EntityKey Bucket)
    (action : Action) :
    amountAt key label (recount counts action) =
      action.amend key label (amountAt key label counts) := by
  cases action with
  | add other amounts =>
    by_cases same : other = key
    · subst same
      simp [recount, amend, amountAt, Ledger.get?_upsert_self, Bucket.get_addAll]
    · have differ : key ≠ other := fun back => same back.symm
      simp [recount, amend, amountAt, Ledger.get?_upsert_ne _ differ, same]
  | raise other raised least =>
    by_cases same : other = key
    · subst same
      simp [recount, amend, amountAt, Ledger.get?_upsert_self, Bucket.get_raise]
    · have differ : key ≠ other := fun back => same back.symm
      simp [recount, amend, amountAt, Ledger.get?_upsert_ne _ differ, same]
  | _ => rfl

theorem amountAt_foldl (key : EntityKey) (label : String) (actions : List Action)
    (counts : Ledger EntityKey Bucket) :
    amountAt key label (actions.foldl recount counts) =
      actions.foldl (amend key label) (amountAt key label counts) := by
  induction actions generalizing counts with
  | nil => rfl
  | cons action rest ih => rw [List.foldl_cons, List.foldl_cons, ih, amountAt_recount]

def addedAt (key : EntityKey) (label : String) : Action → Int
  | .add other amounts => if other == key then amountUnder label amounts else 0
  | _ => 0

end Action

def addedAt (key : EntityKey) (label : String) (actions : List Action) : Int :=
  (actions.map (Action.addedAt key label)).sum

def customBy (actions : List Action) : List EntityKey :=
  actions.filterMap fun
    | .custom key => some key
    | _ => none

section AddedAt

variable (key : EntityKey) (label : String)

@[simp] theorem addedAt_nil : addedAt key label [] = 0 := rfl

@[simp] theorem addedAt_append (first second : List Action) :
    addedAt key label (first ++ second) = addedAt key label first + addedAt key label second := by
  simp [addedAt]

@[simp] theorem addedAt_accept (dimension : Dimension) (t : Tag) (rest : List Action) :
    addedAt key label (.accept dimension t :: rest) = addedAt key label rest := by
  simp [addedAt, Action.addedAt]

@[simp] theorem addedAt_addTo (counter : Counter) (key? : Option EntityKey)
    (amounts : List (Counter × Nat)) :
    addedAt key counter.label (addTo key? amounts) =
      if key? = some key then countUnder counter amounts else 0 := by
  cases key? with
  | none => rfl
  | some other => simp [addTo, addedAt, Action.addedAt, amountUnder_labels]

@[simp] theorem addedAt_markCustom (key? : Option EntityKey) (isCustom : Bool) :
    addedAt key label (markCustom key? isCustom) = 0 := by
  cases key? <;> cases isCustom <;> rfl

theorem addedAt_flatMap {β : Type} (actions : β → List Action) (entries : List β) :
    addedAt key label (entries.flatMap actions) =
      (entries.map fun entry => addedAt key label (actions entry)).sum := by
  induction entries with
  | nil => rfl
  | cons entry rest ih => simp [ih]

end AddedAt

section CustomBy

variable {key : EntityKey}

@[simp] theorem customBy_nil : customBy [] = [] := rfl

@[simp] theorem customBy_append (first second : List Action) :
    customBy (first ++ second) = customBy first ++ customBy second := List.filterMap_append

@[simp] theorem customBy_accept (dimension : Dimension) (t : Tag) (rest : List Action) :
    customBy (.accept dimension t :: rest) = customBy rest := rfl

@[simp] theorem customBy_addTo (key? : Option EntityKey) (amounts : List (Counter × Nat)) :
    customBy (addTo key? amounts) = [] := by
  cases key? <;> rfl

@[simp] theorem mem_customBy_markCustom (key? : Option EntityKey) (isCustom : Bool) :
    key ∈ customBy (markCustom key? isCustom) ↔ key? = some key ∧ isCustom = true := by
  cases key? <;> cases isCustom <;> simp [markCustom, customBy, eq_comm]

theorem customBy_flatMap {β : Type} (actions : β → List Action) (entries : List β) :
    customBy (entries.flatMap actions) = entries.flatMap fun entry => customBy (actions entry) :=
  List.filterMap_flatMap

theorem mem_customBy {actions : List Action} :
    key ∈ customBy actions ↔ Action.custom key ∈ actions := by
  rw [customBy, List.mem_filterMap]
  constructor
  · rintro ⟨action, member, marks⟩
    cases action with
    | custom other =>
      obtain rfl := Option.some.inj marks
      exact member
    | _ => cases marks
  · exact fun member => ⟨_, member, rfl⟩

end CustomBy

theorem amountUnder_eq_zero {label : String} {amounts : List (String × Int)}
    (silent : ∀ amount ∈ amounts, amount.1 ≠ label) : amountUnder label amounts = 0 := by
  have each : ∀ amount ∈ amounts, (if amount.1 == label then amount.2 else 0) = 0 :=
    fun amount member => if_neg (by simpa using silent amount member)
  rw [amountUnder, List.map_congr_left each]
  exact List.sum_map_zero

def Action.raisedAt? (key : EntityKey) (label : String) : Action → Option Int
  | .raise other raised least => if other = key ∧ raised = label then some least else none
  | _ => none

def raisedAt (key : EntityKey) (label : String) (actions : List Action) : List Int :=
  actions.filterMap (Action.raisedAt? key label)

section Amend

variable {key : EntityKey} {label : String} {actions : List Action}

theorem amend_elsewhere {a : Action} (elsewhere : (key, label) ∉ a.places) (amount : Int) :
    a.amend key label amount = amount ∧ a.raisedAt? key label = none := by
  cases a with
  | add other amounts =>
    refine ⟨?_, rfl⟩
    by_cases same : other = key
    · have silent : amountUnder label amounts = 0 := by
        apply amountUnder_eq_zero
        intro amount member counted
        exact elsewhere (Action.mem_places_add.mpr ⟨same, amount, member, counted⟩)
      simp [Action.amend, silent]
    · simp [Action.amend, same]
  | raise other raised least =>
    rw [Action.mem_places_raise] at elsewhere
    simp [Action.amend, Action.raisedAt?, elsewhere]
  | _ => exact ⟨rfl, rfl⟩

theorem foldl_amend_adding
    (adds : ∀ a ∈ actions, (key, label) ∈ a.places → a.isRaise = false) (amount : Int) :
    actions.foldl (Action.amend key label) amount = amount + addedAt key label actions := by
  induction actions generalizing amount with
  | nil => simp
  | cons action rest ih =>
    obtain ⟨first, others⟩ := List.forall_mem_cons.mp adds
    rw [List.foldl_cons, ih others]
    cases action with
    | raise other raised least =>
      have elsewhere : (key, label) ∉ (Action.raise other raised least).places := fun here => by
        cases first here
      simp [(amend_elsewhere elsewhere amount).1, addedAt, Action.addedAt]
    | add other amounts =>
      simp only [Action.amend, addedAt, List.map_cons, List.sum_cons, Action.addedAt]
      split <;> omega
    | _ => simp [Action.amend, addedAt, Action.addedAt]

theorem foldl_amend_raising
    (raises : ∀ a ∈ actions, (key, label) ∈ a.places → a.isRaise = true) (amount : Int) :
    actions.foldl (Action.amend key label) amount =
      (raisedAt key label actions).foldl max amount := by
  induction actions generalizing amount with
  | nil => rfl
  | cons action rest ih =>
    obtain ⟨first, others⟩ := List.forall_mem_cons.mp raises
    rw [List.foldl_cons, ih others, raisedAt, raisedAt, List.filterMap_cons]
    by_cases here : (key, label) ∈ action.places
    · cases action with
      | raise other raised least =>
        rw [Action.mem_places_raise] at here
        simp [Action.amend, Action.raisedAt?, here]
      | add => cases first here
      | _ => cases here
    · obtain ⟨kept, silent⟩ := amend_elsewhere here amount
      rw [kept, silent]

end Amend

def GroupSnapshot.under (s : GroupSnapshot) (key : EntityKey) : List EntityCounts :=
  s.entities.filter fun e => (e.dimension, e.name) = key

namespace Breakdown

variable (group : MetricGroup) (day : String) (engagedUsers : Int)

theorem under_snapshot (b : Breakdown) (key : EntityKey) :
    (b.snapshot group engagedUsers).under key =
      ((b.counts.get? key).map fun bucket : Bucket =>
        { group
          dimension := key.1
          name := key.2
          counts := bucket.counts
          isCustom := decide (key ∈ b.custom) : EntityCounts }).toList := by
  have listed : (b.counts.entries.filter fun entry => decide (entry.1 = key)) =
      ((b.counts.get? key).map fun bucket => (key, bucket)).toList := by
    rw [← Ledger.filter_entries_key]
    refine List.filter_congr fun entry _ => ?_
    rw [Bool.eq_iff_iff, decide_eq_true_iff, beq_iff_eq]
  rw [GroupSnapshot.under, snapshot, entities, List.filter_map]
  change ((b.counts.entries.filter fun entry => decide (entry.1 = key)).map _) = _
  rw [listed]
  cases b.counts.get? key <;> simp

/-- Under a key that was touched stands one entity, whose amounts are what the changes make of
nothing. -/
theorem under_run (actions : List Action) (key : EntityKey) :
    ((run group day actions).snapshot group engagedUsers).under key =
      if key ∈ touchedBy actions then
        [{ group
           dimension := key.1
           name := key.2
           counts := .ofFn fun counter => actions.foldl (Action.amend key counter.label) 0
           isCustom := decide (key ∈ customBy actions) }]
      else [] := by
  have touched : (∃ bucket, (run group day actions).counts.get? key = some bucket) ↔
      key ∈ touchedBy actions := by
    rw [← Ledger.mem_keys_iff, mem_keys_run]
  have marked : key ∈ (run group day actions).custom ↔ key ∈ customBy actions := by
    rw [mem_customBy, mem_custom_run]
  have amounts (counter : Counter) : amountAt key counter.label (run group day actions).counts =
      actions.foldl (Action.amend key counter.label) 0 := by
    rw [counts_run, Action.amountAt_foldl]
    rfl
  rw [under_snapshot]
  simp only [marked, ← amounts, amountAt]
  cases found : (run group day actions).counts.get? key with
  | none =>
    have untouched : key ∉ touchedBy actions := fun member => by
      simpa [found] using touched.mpr member
    rw [if_neg untouched]
    rfl
  | some bucket =>
    rw [if_pos (touched.mp ⟨bucket, found⟩)]
    rfl

end Breakdown

end UsageMetrics.Daily
