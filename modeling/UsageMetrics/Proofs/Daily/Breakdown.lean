import UsageMetrics.Daily.Breakdown
import UsageMetrics.Proofs.Ledger.Total

namespace UsageMetrics.Daily

open UsageMetrics.Metric

def amountUnder (label : String) (amounts : List (String × Int)) : Int :=
  (amounts.map fun amount => if amount.1 == label then amount.2 else 0).sum

namespace Bucket

@[simp] theorem get_empty (label : String) : get .empty label = 0 := rfl

theorem get_add (b : Bucket) (label other : String) (amount : Int) :
    get (b.add label amount) other = b.get other + if label == other then amount else 0 := by
  simp only [get, add, Ledger.get?_upsert]
  cases same : other == label with
  | true =>
    obtain rfl := eq_of_beq same
    simp
  | false =>
    have differ : (label == other) = false := by
      rw [beq_eq_false_iff_ne] at same ⊢
      exact same.symm
    simp [differ]

theorem get_addAll (b : Bucket) (amounts : List (String × Int)) (label : String) :
    get (b.addAll amounts) label = b.get label + amountUnder label amounts := by
  induction amounts generalizing b with
  | nil => simp [addAll, amountUnder]
  | cons amount rest ih =>
    have tail := ih (b.add amount.1 amount.2)
    rw [get_add] at tail
    simp only [addAll, amountUnder, List.foldl_cons, List.map_cons, List.sum_cons] at tail ⊢
    omega

theorem get_raise_ne (b : Bucket) {label other : String} (differ : other ≠ label) (amount : Int) :
    get (b.raise label amount) other = b.get other := by
  simp only [get, raise, Ledger.get?_upsert_ne b differ]

theorem get_counts (b : Bucket) (counter : Counter) :
    (counts b).get counter = get b counter.label := Counts.get_ofFn _ _

end Bucket

namespace Action

def added (dimension : Dimension) (label : String) : Action → Int
  | .add key amounts => if key.1 == dimension then amountUnder label amounts else 0
  | _ => 0

def Raises (label : String) : Action → Prop
  | .raise _ raised _ => raised = label
  | _ => False

end Action

def addedBy (dimension : Dimension) (label : String) (actions : List Action) : Int :=
  (actions.map (Action.added dimension label)).sum

section AddedBy

variable (dimension : Dimension) (label : String)

@[simp] theorem addedBy_nil : addedBy dimension label [] = 0 := rfl

@[simp] theorem addedBy_cons (action : Action) (actions : List Action) :
    addedBy dimension label (action :: actions) =
      action.added dimension label + addedBy dimension label actions := by
  simp [addedBy]

@[simp] theorem addedBy_append (first second : List Action) :
    addedBy dimension label (first ++ second) =
      addedBy dimension label first + addedBy dimension label second := by
  simp [addedBy]

theorem addedBy_flatMap {β : Type} (actionsOf : β → List Action) (entries : List β) :
    addedBy dimension label (entries.flatMap actionsOf) =
      (entries.map fun entry => addedBy dimension label (actionsOf entry)).sum := by
  induction entries with
  | nil => rfl
  | cons entry rest ih => simp [List.flatMap_cons, ih]

theorem addedBy_flatMap_zero {β : Type} {actionsOf : β → List Action} {entries : List β}
    (nothing : ∀ entry ∈ entries, addedBy dimension label (actionsOf entry) = 0) :
    addedBy dimension label (entries.flatMap actionsOf) = 0 := by
  rw [addedBy_flatMap, List.map_congr_left nothing]
  induction entries with
  | nil => rfl
  | cons entry rest ih =>
    rw [List.map_cons, List.sum_cons, Int.zero_add]
    exact ih fun other member => nothing other (List.mem_cons_of_mem _ member)

end AddedBy

namespace Breakdown

variable (group : MetricGroup) (day : String)

def sumOver (dimension : Dimension) (label : String) (b : Breakdown) : Int :=
  b.counts.total fun key bucket => if key.1 == dimension then Bucket.get bucket label else 0

/-- A key that is new to the counts starts with nothing, so only additions change a sum. -/
theorem sumOver_apply (dimension : Dimension) {label : String} (b : Breakdown) (action : Action)
    (keeps : ¬ action.Raises label) :
    sumOver dimension label (b.apply group day action) =
      sumOver dimension label b + action.added dimension label := by
  let weight : EntityKey → Bucket → Int := fun key bucket =>
    if key.1 == dimension then bucket.get label else 0
  -- An addition and a raise of another counter are one case: the latter adds nothing.
  have changed (key : EntityKey) (f : Bucket → Bucket) (amount : Int)
      (adds : ∀ bucket : Bucket, (f bucket).get label = bucket.get label + amount) :
      (b.counts.upsert key fun old => f (old.getD .empty)).total weight =
        b.counts.total weight + if key.1 == dimension then amount else 0 := by
    apply Ledger.total_upsert_add
    · simp [weight]
    · intro bucket
      simp only [weight, adds]
      split <;> simp
  cases action with
  | accept => simp [apply, sumOver, Action.added]
  | custom => simp [apply, sumOver, Action.added]
  | add key amounts =>
    exact changed key (fun bucket => bucket.addAll amounts) (amountUnder label amounts)
      fun bucket => Bucket.get_addAll bucket amounts label
  | raise key raised amount =>
    have differ : label ≠ raised := fun same => keeps same.symm
    have kept := changed key (fun bucket => bucket.raise raised amount) 0 fun bucket => by
      simp [Bucket.get_raise_ne bucket differ]
    simp only [ite_self, Int.add_zero] at kept
    simp only [Action.added, Int.add_zero]
    exact kept

theorem sumOver_run (dimension : Dimension) {label : String} (actions : List Action)
    (keep : ∀ action ∈ actions, ¬ action.Raises label) :
    sumOver dimension label (run group day actions) = addedBy dimension label actions := by
  suffices shifted : ∀ b : Breakdown, sumOver dimension label (actions.foldl (apply group day) b) =
      sumOver dimension label b + addedBy dimension label actions by
    simpa [run, sumOver, empty] using shifted empty
  induction actions with
  | nil => simp
  | cons action rest ih =>
    intro b
    obtain ⟨keepsFirst, keepRest⟩ := List.forall_mem_cons.mp keep
    rw [List.foldl_cons, ih keepRest, sumOver_apply group day dimension b action keepsFirst,
      addedBy_cons]
    omega

theorem sum_entities (dimension : Dimension) (counter : Counter) (b : Breakdown) :
    (((b.entities group).filter fun e => e.dimension == dimension).map fun e =>
      e.counts.get counter).sum = sumOver dimension counter.label b := by
  have summed := Entry.sum_filter (fun (_ : EntityKey) bucket => Bucket.get bucket counter.label)
    (fun key => key.1 == dimension) b.counts.entries
  rw [entities, List.filter_map, List.map_map]
  simp only [Function.comp_def, Bucket.get_counts]
  exact summed

end Breakdown

end UsageMetrics.Daily
