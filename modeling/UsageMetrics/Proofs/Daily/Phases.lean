import Mathlib.Data.List.Lattice
import UsageMetrics.Proofs.Daily.Flatten
import UsageMetrics.Proofs.Ledger.Commute

namespace UsageMetrics.Daily

open UsageMetrics.Metric UsageMetrics.Feed

def Measured (events : List (Counter → Nat)) (amounts : List (String × Int)) : Prop :=
  ∃ event : Counter → Nat, ((∀ counter, event counter = 0) ∨ event ∈ events) ∧
    ∀ counter, counter ≠ .engagedUsers → amountUnder counter.label amounts = event counter

def Action.Measures (events : List (Counter → Nat)) : Action → Prop
  | .add _ amounts => Measured events amounts
  | .raise _ _ _ => False
  | _ => True

section Measures

variable {events : List (Counter → Nat)}

theorem measures_append {first second : List Action}
    (measuresFirst : ∀ a ∈ first, a.Measures events)
    (measuresSecond : ∀ a ∈ second, a.Measures events) :
    ∀ a ∈ first ++ second, a.Measures events :=
  List.forall_mem_append.mpr ⟨measuresFirst, measuresSecond⟩

theorem measures_accept {own : Dimension} {t : Tag} {actions : List Action}
    (measures : ∀ a ∈ actions, a.Measures events) :
    ∀ a ∈ .accept own t :: actions, a.Measures events :=
  List.forall_mem_cons.mpr ⟨trivial, measures⟩

theorem measures_flatMap {β : Type} {actionsOf : β → List Action} {entries : List β}
    (measures : ∀ entry ∈ entries, ∀ a ∈ actionsOf entry, a.Measures events) :
    ∀ a ∈ entries.flatMap actionsOf, a.Measures events := by
  intro action member
  obtain ⟨entry, inEntries, inActions⟩ := List.mem_flatMap.mp member
  exact measures entry inEntries action inActions

theorem measures_markCustom (key? : Option EntityKey) (isCustom : Bool) :
    ∀ a ∈ markCustom key? isCustom, a.Measures events := by
  cases key? <;> cases isCustom <;> simp [markCustom, Action.Measures]

theorem measures_users (key? : Option EntityKey) (users : Nat) :
    ∀ a ∈ addTo key? [(.engagedUsers, users)], a.Measures events := by
  cases key? with
  | none => exact fun _ member => nomatch member
  | some key =>
    intro action member
    obtain rfl := List.mem_singleton.mp member
    refine ⟨fun _ => 0, .inl fun _ => rfl, fun counter event => ?_⟩
    rw [amountUnder_labels]
    simp [countUnder, event.symm]

theorem measures_event {event : Counter → Nat} (listed : event ∈ events) (key? : Option EntityKey)
    {amounts : List (Counter × Nat)}
    (counted : ∀ counter, counter ≠ .engagedUsers → countUnder counter amounts = event counter) :
    ∀ a ∈ addTo key? amounts, a.Measures events := by
  cases key? with
  | none => exact fun _ member => nomatch member
  | some key =>
    intro action member
    obtain rfl := List.mem_singleton.mp member
    refine ⟨event, .inr listed, fun counter isEvent => ?_⟩
    rw [amountUnder_labels, counted counter isEvent]

end Measures

def adding (r : DailyRecord) : MetricGroup → List Action
  | .codeCompletions =>
    r.completions.languages.map (fun l => .accept .language l.tag) ++
      r.completions.editors.flatMap Completions.editorActions ++
      r.completions.languages.flatMap Completions.listedUsers
  | group => (groupFeed r group).actions

def raising (r : DailyRecord) : MetricGroup → List Action
  | .codeCompletions =>
    (Completions.nestedLanguages r.completions).flatMap (Completions.nestedUsers r.completions)
  | _ => []

theorem groupFeed_actions (r : DailyRecord) (group : MetricGroup) :
    (groupFeed r group).actions = adding r group ++ raising r group := by
  cases group with
  | codeCompletions => rfl
  | _ => exact (List.append_nil _).symm

theorem adding_measures (r : DailyRecord) (group : MetricGroup) :
    ∀ a ∈ adding r group, a.Measures (r.innermost group) := by
  cases group with
  | codeCompletions =>
    refine measures_append (measures_append ?_ ?_) ?_
    · simp [Action.Measures]
    · refine measures_flatMap fun e inGroup => measures_accept
        (measures_append (measures_users _ _) ?_)
      refine measures_flatMap fun m inEditor => measures_accept
        (measures_append (measures_append (measures_users _ _) (measures_markCustom _ _)) ?_)
      refine measures_flatMap fun l inModel => ?_
      have listed : l.event ∈ r.innermost .codeCompletions :=
        List.mem_flatMap.mpr ⟨e, inGroup, List.mem_flatMap.mpr ⟨m, inEditor,
          List.mem_map_of_mem inModel⟩⟩
      -- An innermost entry adds the same amounts under each of its three keys.
      have amounts (key? : Option EntityKey) := measures_event listed key? fun counter _ =>
        Completions.countUnder_amounts l
      exact measures_append (measures_append (amounts _) (amounts _)) (measures_accept (amounts _))
    · exact measures_flatMap fun l _ => measures_users _ _
  | ideChat =>
    refine measures_flatMap fun e inGroup => measures_accept
      (measures_append (measures_users _ _) ?_)
    refine measures_flatMap fun m inEditor => ?_
    have listed : m.event ∈ r.innermost .ideChat :=
      List.mem_flatMap.mpr ⟨e, inGroup, List.mem_map_of_mem inEditor⟩
    refine measures_append (measures_append (measures_event listed _ fun counter _ =>
      IdeChat.countUnder_amounts m) (measures_accept (measures_event listed _ ?_)))
      (measures_markCustom _ _)
    exact fun counter isEvent => IdeChat.countUnder_own isEvent m
  | dotcomChat =>
    refine measures_flatMap fun m inGroup => measures_accept (measures_append ?_
      (measures_markCustom _ _))
    exact measures_event (List.mem_map_of_mem inGroup) _ fun counter isEvent =>
      DotcomChat.countUnder_own isEvent m
  | pullRequests =>
    refine measures_flatMap fun p inGroup => measures_accept
      (measures_append (measures_users _ _) ?_)
    refine measures_flatMap fun m inRepository => ?_
    have listed : m.event ∈ r.innermost .pullRequests :=
      List.mem_flatMap.mpr ⟨p, inGroup, List.mem_map_of_mem inRepository⟩
    refine measures_append (measures_append (measures_event listed _ fun counter _ =>
      PullRequests.countUnder_summaries m) (measures_accept (measures_event listed _ ?_)))
      (measures_markCustom _ _)
    exact fun counter isEvent => PullRequests.countUnder_own isEvent m

def Action.RaisesUsers (a : Action) : Prop :=
  ∃ key users, a = .raise key Counter.engagedUsers.label users

theorem raising_users (r : DailyRecord) (group : MetricGroup) :
    ∀ action ∈ raising r group, action.RaisesUsers := by
  intro action member
  cases group with
  | codeCompletions =>
    obtain ⟨l, -, inNested⟩ := List.mem_flatMap.mp member
    simp only [Completions.nestedUsers] at inNested
    cases named : entryKey? .language l.tag with
    | none => simp [named] at inNested
    | some key =>
      simp only [named] at inNested
      split at inNested
      · cases inNested
      · exact ⟨key, l.engagedUsers, List.mem_singleton.mp inNested⟩
  | _ => cases member

theorem groupFeed_changes (r : DailyRecord) (group : MetricGroup) :
    ∀ action ∈ (groupFeed r group).actions,
      action.Measures (r.innermost group) ∨ action.RaisesUsers := by
  rw [groupFeed_actions]
  exact List.forall_mem_append.mpr
    ⟨fun action member => .inl (adding_measures r group action member),
      fun action member => .inr (raising_users r group action member)⟩

theorem groupFeed_raises (r : DailyRecord) (group : MetricGroup) {counter : Counter}
    (event : counter ≠ .engagedUsers) :
    ∀ action ∈ (groupFeed r group).actions, ¬action.Raises counter.label := by
  intro action member raises
  rcases groupFeed_changes r group action member with measures | ⟨key, users, rfl⟩
  · cases action with
    | raise => exact measures
    | _ => exact raises
  · exact event (Counter.label_injective raises).symm

namespace Bucket

theorem addAll_perm {amounts others : List (String × Int)} (order : amounts.Perm others)
    (b : Bucket) : b.addAll amounts = b.addAll others :=
  Ledger.replay_perm Prod.fst 0 (fun n amount => n + amount.2) (fun n first second => by omega)
    order b

theorem addAll_comm (b : Bucket) (first second : List (String × Int)) :
    (b.addAll first).addAll second = (b.addAll second).addAll first := by
  have order : (first ++ second).Perm (second ++ first) := List.perm_append_comm
  simpa only [addAll, List.foldl_append] using addAll_perm order b

theorem raise_comm (b : Bucket) (label other : String) (least most : Int) :
    (b.raise label least).raise other most = (b.raise other most).raise label least :=
  Ledger.upsert_comm (f := fun n => max n least) (g := fun n => max n most)
    (fun _ n => by omega) b

theorem raise_addAll_comm {amounts : List (String × Int)} {label : String}
    (apart : ∀ amount ∈ amounts, amount.1 ≠ label) (least : Int) (b : Bucket) :
    (b.addAll amounts).raise label least = (b.raise label least).addAll amounts := by
  induction amounts generalizing b with
  | nil => rfl
  | cons amount rest ih =>
    obtain ⟨first, others⟩ := List.forall_mem_cons.mp apart
    have once : (b.add amount.1 amount.2).raise label least =
        (b.raise label least).add amount.1 amount.2 :=
      Ledger.upsert_comm (f := fun n => n + amount.2) (g := fun n => max n least)
        (fun same => absurd same first) b
    change ((b.add amount.1 amount.2).addAll rest).raise label least =
      ((b.raise label least).add amount.1 amount.2).addAll rest
    rw [ih others, once]

end Bucket

namespace Action

def recount (counts : Ledger EntityKey Bucket) : Action → Ledger EntityKey Bucket
  | .add key amounts => counts.upsert key fun old => Bucket.addAll (old.getD .empty) amounts
  | .raise key label amount =>
    counts.upsert key fun old => Bucket.raise (old.getD .empty) label amount
  | _ => counts

def isRaise : Action → Bool
  | .raise _ _ _ => true
  | _ => false

theorem isRaise_eq_false {a : Action} {events : List (Counter → Nat)}
    (measures : a.Measures events) : a.isRaise = false := by
  cases a with
  | raise => cases measures
  | _ => rfl

def places : Action → List (EntityKey × String)
  | .add key amounts => amounts.map fun amount => (key, amount.1)
  | .raise key label _ => [(key, label)]
  | _ => []

@[simp] theorem mem_places_add {key other : EntityKey} {amounts : List (String × Int)}
    {label : String} :
    (key, label) ∈ (add other amounts).places ↔
      other = key ∧ ∃ amount ∈ amounts, amount.1 = label := by
  simp only [places, List.mem_map, Prod.mk.injEq]
  constructor
  · rintro ⟨amount, member, same, rfl⟩
    exact ⟨same, amount, member, rfl⟩
  · rintro ⟨same, amount, member, rfl⟩
    exact ⟨amount, member, same, rfl⟩

@[simp] theorem mem_places_raise {key other : EntityKey} {label raised : String} {least : Int} :
    (key, label) ∈ (raise other raised least).places ↔ other = key ∧ raised = label := by
  simp only [places, List.mem_singleton, Prod.mk.injEq]
  exact and_congr eq_comm eq_comm

/-- Both changes are raises, or neither is one, or they are about different keys or counters. -/
def Independent (a b : Action) : Prop := a.isRaise = b.isRaise ∨ a.places.Disjoint b.places

theorem Independent.symm {a b : Action} (independent : a.Independent b) : b.Independent a :=
  independent.imp Eq.symm List.Disjoint.symm

theorem recount_raise_add {key other : EntityKey} {amounts : List (String × Int)} {label : String}
    {least : Int} (apart : (add key amounts).places.Disjoint (raise other label least).places)
    (counts : Ledger EntityKey Bucket) :
    recount (recount counts (.add key amounts)) (.raise other label least) =
      recount (recount counts (.raise other label least)) (.add key amounts) := by
  -- Under different keys the changes do not meet; under one key they are about different counters.
  refine Ledger.upsert_comm (f := fun bucket => Bucket.addAll bucket amounts)
    (g := fun bucket => Bucket.raise bucket label least) (fun same bucket => ?_) counts
  apply Bucket.raise_addAll_comm
  intro amount member counted
  exact apart (mem_places_add.mpr ⟨same, amount, member, counted⟩) (mem_places_raise.mpr ⟨rfl, rfl⟩)

/-- Additions commute, and so do raises; but a raise does not commute with an addition to the same
counter. -/
theorem recount_comm {a b : Action} (independent : a.Independent b)
    (counts : Ledger EntityKey Bucket) :
    recount (recount counts a) b = recount (recount counts b) a := by
  cases a with
  | add key amounts =>
    cases b with
    | add other more =>
      exact Ledger.upsert_comm (f := fun bucket => Bucket.addAll bucket amounts)
        (g := fun bucket => Bucket.addAll bucket more)
        (fun _ bucket => Bucket.addAll_comm bucket amounts more) counts
    | raise other label least =>
      exact recount_raise_add (independent.resolve_left nofun) counts
    | _ => rfl
  | raise key label least =>
    cases b with
    | add other amounts =>
      exact (recount_raise_add (independent.symm.resolve_left nofun) counts).symm
    | raise other label' most =>
      exact Ledger.upsert_comm (f := fun bucket => Bucket.raise bucket label least)
        (g := fun bucket => Bucket.raise bucket label' most)
        (fun _ bucket => Bucket.raise_comm bucket label label' least most) counts
    | _ => rfl
  | _ => cases b <;> rfl

/-- A raise sees what was added before it, but not what is added after it. -/
example : ((Bucket.add .empty "chats" 3).raise "chats" 5).get "chats" = 5 ∧
    ((Bucket.raise .empty "chats" 5).add "chats" 3).get "chats" = 8 := by
  decide

theorem recount_perm {actions others : List Action} {raising : Bool}
    (phase : ∀ a ∈ actions, a.isRaise = raising) (order : actions.Perm others)
    (counts : Ledger EntityKey Bucket) :
    actions.foldl recount counts = others.foldl recount counts :=
  order.foldl_eq' (fun a inActions b inActions' counts =>
    recount_comm (.inl ((phase a inActions).trans (phase b inActions').symm)) counts) counts

def warnings (group : MetricGroup) (day : String) : Action → List Warning
  | .accept dimension tag => Breakdown.warningsOn group day dimension tag
  | _ => []

end Action

namespace Breakdown

variable (group : MetricGroup) (day : String)

theorem foldl_apply (actions : List Action) (b : Breakdown) :
    (actions.foldl (apply group day) b).counts = actions.foldl Action.recount b.counts ∧
      (∀ key, key ∈ (actions.foldl (apply group day) b).custom ↔
        key ∈ b.custom ∨ Action.custom key ∈ actions) ∧
      (actions.foldl (apply group day) b).warnings =
        b.warnings ++ actions.flatMap (Action.warnings group day) := by
  induction actions generalizing b with
  | nil => simp
  | cons action rest ih =>
    obtain ⟨counts, custom, warnings⟩ := ih (b.apply group day action)
    rw [List.foldl_cons, List.foldl_cons, counts, warnings]
    refine ⟨?_, fun key => ?_, ?_⟩
    · cases action <;> rfl
    · rw [custom]
      cases action <;> simp [apply, change, or_assoc, or_left_comm]
    · cases action <;> simp [apply, change, Action.warnings]

theorem counts_run (actions : List Action) :
    (run group day actions).counts = actions.foldl Action.recount .empty :=
  (foldl_apply group day actions empty).1

theorem mem_custom_run {actions : List Action} {key : EntityKey} :
    key ∈ (run group day actions).custom ↔ Action.custom key ∈ actions := by
  obtain ⟨-, custom, -⟩ := foldl_apply group day actions empty
  exact (custom key).trans (or_iff_right List.not_mem_nil)

theorem entities_run_congr {actions others : List Action}
    (counts : actions.foldl Action.recount .empty = others.foldl Action.recount .empty)
    (custom : ∀ key, Action.custom key ∈ actions ↔ Action.custom key ∈ others) :
    (run group day actions).entities group = (run group day others).entities group := by
  have marked (key : EntityKey) :
      (run group day actions).custom.contains key = (run group day others).custom.contains key := by
    rw [Bool.eq_iff_iff, List.contains_iff_mem, List.contains_iff_mem, mem_custom_run,
      mem_custom_run]
    exact custom key
  simp only [entities, counts_run, counts, marked]

variable {adding raising adding' raising' : List Action}

/-- Whatever the order of the additions, and of the raises after them, the same entities come of
them, and as many warnings. -/
theorem run_perm (adds : ∀ a ∈ adding, a.isRaise = false) (raises : ∀ a ∈ raising, a.isRaise = true)
    (first : adding.Perm adding') (second : raising.Perm raising') :
    (run group day (adding ++ raising)).entities group =
        (run group day (adding' ++ raising')).entities group ∧
      (run group day (adding ++ raising)).warnings.length =
        (run group day (adding' ++ raising')).warnings.length := by
  have order := first.append second
  constructor
  · apply entities_run_congr group day _ fun key => order.mem_iff
    rw [List.foldl_append, List.foldl_append, Action.recount_perm adds first,
      Action.recount_perm raises second]
  · obtain ⟨-, -, warnings⟩ := foldl_apply group day (adding ++ raising) empty
    obtain ⟨-, -, warnings'⟩ := foldl_apply group day (adding' ++ raising') empty
    rw [run, run, warnings, warnings', List.length_append, List.length_append,
      (order.flatMap_right _).length_eq]

end Breakdown

end UsageMetrics.Daily
