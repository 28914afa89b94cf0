import UsageMetrics.Proofs.Daily.Store
import UsageMetrics.Requests.OpenBreakdown

namespace UsageMetrics.Metric

theorem Counter.ofLabel?_isSome {label : String} (counted : label ∈ all.map Counter.label) :
    (ofLabel? label).isSome = true := by
  obtain ⟨counter, member, rfl⟩ := List.mem_map.mp counted
  exact List.find?_isSome.mpr ⟨counter, member, decide_eq_true rfl⟩

end UsageMetrics.Metric

namespace UsageMetrics

open UsageMetrics.Feed UsageMetrics.Metric UsageMetrics.Daily

namespace Course

variable {σ : Type} (perform : σ → Deed → σ × Except Failure Reply)

theorem follow_silent {sight : σ → Except Failure Sight} {deed : Deed}
    (silent : ∀ s, (perform s deed).1 = s) (behind : Option Failure)
    (before after : List (Except Failure Deed)) {s : σ} {seen : Sight}
    (sighted : sight s = .ok seen) :
    (follow perform sight behind s (before ++ .ok deed :: after)).answers.eraseIdx before.length =
        (follow perform sight behind s (before ++ after)).answers ∧
      (follow perform sight behind s (before ++ .ok deed :: after)).failure =
        (follow perform sight behind s (before ++ after)).failure := by
  induction before generalizing s seen with
  -- What follows starts where the deed was done, and there everything could be seen before.
  | nil => simp [follow, silent, sighted]
  | cons first rest ih =>
    simp only [List.cons_append, follow]
    split
    · exact ⟨rfl, rfl⟩
    · rename_i next found
      obtain ⟨answers, failure⟩ := ih found
      simp [answers, failure]

theorem getLast?_follow (sight : σ → Sight) (behind : Option Failure) (deeds : List Deed)
    (last : Deed) (s : σ) :
    (follow perform (fun s => .ok (sight s)) behind s
        (deeds.map .ok ++ [.ok last])).answers.getLast? =
      let result := perform (deeds.foldl (fun s deed => (perform s deed).1) s) last
      some (result.2, sight result.1) := by
  induction deeds generalizing s with
  | nil => rfl
  | cons first rest ih =>
    have tail := ih (perform s first).1
    simp only [List.map_cons, List.cons_append, follow, List.foldl_cons, List.getLast?_cons, tail,
      Option.getD_some]

end Course

namespace Daily.Action

def deed : Action → Deed
  | accept dimension tag => .accept dimension tag
  | add key amounts => .add (some (key.1, .text key.2))
    (.object (amounts.map fun amount => (amount.1, .integer amount.2)))
  | raise key label least => .raise (some (key.1, .text key.2)) (.text label) (.integer least)
  | custom key => .custom (some (key.1, .text key.2))

theorem amounts?_integers {amounts : List (String × Int)}
    (counted : ∀ amount ∈ amounts, amount.1 ∈ Counter.all.map Counter.label) :
    Deed.amounts? (amounts.map fun amount => (amount.1, .integer amount.2)) = some amounts := by
  induction amounts with
  | nil => rfl
  | cons amount rest ih =>
    obtain ⟨first, others⟩ := List.forall_mem_cons.mp counted
    obtain ⟨counter, found⟩ := Option.isSome_iff_exists.mp (Counter.ofLabel?_isSome first)
    have tail := ih others
    simp only [Deed.amounts?] at tail
    simp [Deed.amounts?, found, tail]

theorem action?_deed {a : Action} (proper : a.Proper) : a.deed.action? = some a := by
  cases a with
  | add key amounts =>
    have counted := amounts?_integers fun amount member =>
      proper.2 (key, amount.1) (List.mem_map_of_mem member)
    exact congrArg (Option.map (Action.add key)) counted
  | raise key label least =>
    obtain ⟨counter, found⟩ := Option.isSome_iff_exists.mp
      (Counter.ofLabel?_isSome (proper.2 (key, label) (List.mem_singleton_self _)))
    exact congrArg (Option.map fun _ => Action.raise key label least) found
  | _ => rfl

theorem isPlain_deed {a : Action} (proper : a.Proper) : a.deed.isPlain = true := by
  have found := congrArg Option.isSome (action?_deed proper)
  cases a <;> exact found

theorem perform_deed {a : Action} (proper : a.Proper) (group : MetricGroup) (day : String)
    (b : Breakdown) : (b.perform group day a.deed).1 = b.apply group day a := by
  have found := congrArg (fun action? => action?.elim b (b.apply group day)) (action?_deed proper)
  cases a with
  | accept => rfl
  | _ => exact found

end Daily.Action

namespace Daily.Breakdown

variable (group : MetricGroup) (day : String)

theorem foldl_perform {actions : List Action} (proper : ∀ a ∈ actions, a.Proper) (b : Breakdown) :
    (actions.map Action.deed).foldl (fun b deed => (b.perform group day deed).1) b =
      actions.foldl (apply group day) b := by
  induction actions generalizing b with
  | nil => rfl
  | cons action rest ih =>
    obtain ⟨first, others⟩ := List.forall_mem_cons.mp proper
    rw [List.map_cons, List.foldl_cons, List.foldl_cons, Action.perform_deed first, ih others]

end Daily.Breakdown

namespace Course

open UsageMetrics.Daily

theorem of_snapshot (group : MetricGroup) (day : String) (behind : Option Failure)
    (before after : List (Except Failure Deed)) (engagedUsers : Value) :
    (of group day (before ++ .ok (.snapshot engagedUsers) :: after) behind).answers.eraseIdx
        before.length = (of group day (before ++ after) behind).answers ∧
      (of group day (before ++ .ok (.snapshot engagedUsers) :: after) behind).failure =
        (of group day (before ++ after) behind).failure := by
  have plain : ((before ++ .ok (.snapshot engagedUsers) :: after).all fun deed =>
      deed.toOption.all Deed.isPlain) = (before ++ after).all fun deed =>
        deed.toOption.all Deed.isPlain := by
    rw [List.all_append, List.all_cons, List.all_append]
    rfl
  simp only [of, plain]
  split
  · exact follow_silent _ (fun _ => rfl) behind before after rfl
  · exact follow_silent _ (fun _ => rfl) behind before after rfl

def asking (actions : List Action) : List (Except Failure Deed) :=
  (actions.map Action.deed).map .ok

theorem of_asking {actions : List Action} (proper : ∀ a ∈ actions, a.Proper)
    (group : MetricGroup) (day : String) (behind : Option Failure) {last : Deed}
    (plain : last.isPlain = true) :
    (of group day (asking actions ++ [.ok last]) behind).answers.getLast? =
      let result := (Breakdown.run group day actions).perform group day last
      some (result.2, result.1.sight) := by
  have allPlain : (asking actions ++ [Except.ok last]).all (fun deed =>
      deed.toOption.all Deed.isPlain) = true := by
    simp only [asking, List.map_map, List.all_append, List.all_map, Bool.and_eq_true,
      List.all_eq_true, List.all_cons, List.all_nil, and_true]
    exact ⟨fun a member => Action.isPlain_deed (proper a member), plain⟩
  have answered := getLast?_follow (Breakdown.perform group day) Breakdown.sight behind
    (actions.map Action.deed) last .empty
  rw [Breakdown.foldl_perform group day proper] at answered
  rw [of, if_pos allPlain]
  exact answered

end Course

namespace Daily.Breakdown

theorem snapshotOf_integer (group : MetricGroup) (engagedUsers : Int) (b : Breakdown) :
    b.snapshotOf group (.integer engagedUsers) =
      (b.snapshot? group engagedUsers).mapError .rejected := by
  unfold snapshotOf snapshot?
  split <;> rfl

/-- What is known of the counts of a group after some changes: the snapshot that is answered, which
changes may as well come in another order, what an entry that is accepted leaves behind, and that a
snapshot leaves nothing. -/
structure Faithful (group : MetricGroup) (day : String) (actions : List Action) : Prop where
  told : ∀ engagedUsers : Int, ∃ s,
    (run group day actions).snapshot? group engagedUsers = .ok s ∧
    (Course.of group day (Course.asking actions ++ [.ok (.snapshot (.integer engagedUsers))])
      none).answers.getLast? = some (.ok (.group s), (run group day actions).sight) ∧
    s.Tells group engagedUsers actions
  swapped : ∀ before after a b, actions = before ++ a :: b :: after → a.Independent b →
    ∀ engagedUsers, (run group day (before ++ b :: a :: after)).snapshot? group engagedUsers =
      (run group day actions).snapshot? group engagedUsers
  accepted : ∀ dimension t, ∃ ws,
    run group day (actions ++ [.accept dimension t]) = { run group day actions with
      warnings := (run group day actions).warnings ++ ws } ∧
    ws.length = if t.IsNamed ∧ t.repaired = [] then 0 else 1
  unseen : ∀ (before after : List (Except Failure Deed)) (engagedUsers : Value),
    (Course.of group day (before ++ .ok (.snapshot engagedUsers) :: after) none).answers.eraseIdx
        before.length = (Course.of group day (before ++ after) none).answers ∧
      (Course.of group day (before ++ .ok (.snapshot engagedUsers) :: after) none).failure =
        (Course.of group day (before ++ after) none).failure

def mixedActions : List Action :=
  [.add (.editor, "vim") [("chats", 3), ("copy_events", -1)], .accept .model ⟨none, ["name"]⟩,
    .raise (.model, " ") "engaged_users" (-5), .add (.editor, "vim") [("chats", 4)],
    .raise (.editor, "vim") "engaged_users" 2, .add (.editor, "vim") [("engaged_users", 1)],
    .custom (.model, " "), .add (.language, "go") []]

end Daily.Breakdown

end UsageMetrics
