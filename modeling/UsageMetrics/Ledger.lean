namespace UsageMetrics

class KeyOrder (κ : Type) extends BEq κ, LawfulBEq κ where
  before : κ → κ → Bool
  before_irrefl : ∀ a, before a a = false
  before_trans : ∀ a b c, before a b = true → before b c = true → before a c = true
  eq_of_not_before : ∀ a b, before a b = false → before b a = false → a = b

-- Where keys have an equality of their own, their order is not asked for another one.
attribute [instance (low)] KeyOrder.toBEq

open KeyOrder

instance : KeyOrder String where
  before a b := decide (a < b)
  before_irrefl a := decide_eq_false (String.lt_irrefl a)
  before_trans a b c first second := by
    simp only [decide_eq_true_eq] at *
    exact String.lt_trans first second
  eq_of_not_before a b first second := by
    simp only [decide_eq_false_iff_not] at *
    exact String.le_antisymm (String.not_lt.mp second) (String.not_lt.mp first)

instance {α β : Type} [KeyOrder α] [KeyOrder β] : KeyOrder (α × β) where
  before a b := before a.1 b.1 || (a.1 == b.1 && before a.2 b.2)
  before_irrefl a := by simp [before_irrefl]
  before_trans a b c first second := by
    simp only [Bool.or_eq_true, Bool.and_eq_true, beq_iff_eq] at *
    rcases first with first | ⟨same, first⟩ <;> rcases second with second | ⟨same', second⟩
    · exact .inl (before_trans _ _ _ first second)
    · exact .inl (same' ▸ first)
    · exact .inl (same ▸ second)
    · exact .inr ⟨same.trans same', before_trans _ _ _ first second⟩
  eq_of_not_before a b first second := by
    simp only [Bool.or_eq_false_iff, Bool.and_eq_false_iff, beq_eq_false_iff_ne] at *
    have same := eq_of_not_before _ _ first.1 second.1
    refine Prod.ext same (eq_of_not_before _ _ ?_ ?_)
    · exact first.2.resolve_left (fun differ => differ same)
    · exact second.2.resolve_left (fun differ => differ same.symm)

namespace Entry

variable {κ α : Type} [KeyOrder κ]

def find? (key : κ) : List (κ × α) → Option α
  | [] => none
  | (other, value) :: rest => if key == other then some value else find? key rest

/-- Changes the entry under a key, which may be absent, in its place in the order. -/
def update (key : κ) (change : Option α → α) : List (κ × α) → List (κ × α)
  | [] => [(key, change none)]
  | (other, value) :: rest =>
    if key == other then (other, change (some value)) :: rest
    else if before key other then (key, change none) :: (other, value) :: rest
    else (other, value) :: update key change rest

def Sorted (entries : List (κ × α)) : Prop :=
  entries.Pairwise fun a b => before a.1 b.1 = true

theorem find?_eq_none (key : κ) (entries : List (κ × α))
    (absent : ∀ entry ∈ entries, before key entry.1 = true) : find? key entries = none := by
  induction entries with
  | nil => rfl
  | cons first rest ih =>
    have differ : key ≠ first.1 := by
      rintro same
      have less := absent first (by simp)
      rw [same, before_irrefl] at less
      exact Bool.noConfusion less
    simp only [find?, beq_eq_false_iff_ne.mpr differ]
    exact ih fun entry member => absent entry (by simp [member])

theorem find?_update_self (key : κ) (change : Option α → α) {entries : List (κ × α)}
    (sorted : Sorted entries) :
    find? key (update key change entries) = some (change (find? key entries)) := by
  induction entries with
  | nil => simp [update, find?]
  | cons first rest ih =>
    have ⟨above, restSorted⟩ := List.pairwise_cons.mp sorted
    simp only [update, find?]
    split
    · simp_all [find?]
    · rename_i differ
      split
      · rename_i less
        have none := find?_eq_none key rest fun entry member =>
          before_trans _ _ _ less (above entry member)
        simp [find?, none]
      · simp [find?, differ, ih restSorted]

theorem find?_update_ne {key other : κ} (differ : other ≠ key) (change : Option α → α)
    (entries : List (κ × α)) : find? other (update key change entries) = find? other entries := by
  induction entries with
  | nil => simp [update, find?, differ]
  | cons first rest ih =>
    simp only [update]
    split
    · rename_i same
      have : other ≠ first.1 := by
        have := (by simpa using same : key = first.1)
        exact this ▸ differ
      simp [find?, this]
    · split
      · simp [find?, differ]
      · simp [find?, ih]

theorem mem_update_key (key : κ) (change : Option α → α) (entries : List (κ × α))
    {entry : κ × α} (member : entry ∈ update key change entries) :
    entry.1 = key ∨ ∃ old ∈ entries, old.1 = entry.1 := by
  induction entries with
  | nil => simp_all [update]
  | cons first rest ih =>
    simp only [update] at member
    split at member
    · rename_i same
      rcases List.mem_cons.mp member with rfl | member
      · exact .inl (by simp_all)
      · exact .inr ⟨entry, by simp [member], rfl⟩
    · split at member
      · rcases List.mem_cons.mp member with rfl | member
        · exact .inl rfl
        · exact .inr ⟨entry, member, rfl⟩
      · rcases List.mem_cons.mp member with rfl | member
        · exact .inr ⟨_, by simp, rfl⟩
        · rcases ih member with same | ⟨old, inRest, same⟩
          · exact .inl same
          · exact .inr ⟨old, by simp [inRest], same⟩

theorem update_sorted (key : κ) (change : Option α → α) {entries : List (κ × α)}
    (sorted : Sorted entries) : Sorted (update key change entries) := by
  induction entries with
  | nil => simp [update, Sorted]
  | cons first rest ih =>
    have ⟨above, restSorted⟩ := List.pairwise_cons.mp sorted
    simp only [update]
    split
    · exact List.pairwise_cons.mpr ⟨above, restSorted⟩
    · rename_i differ
      split
      · rename_i less
        refine List.pairwise_cons.mpr ⟨fun entry member => ?_, sorted⟩
        rcases List.mem_cons.mp member with rfl | member
        · exact less
        · exact before_trans _ _ _ less (above entry member)
      · rename_i notLess
        refine List.pairwise_cons.mpr ⟨fun entry member => ?_, ih restSorted⟩
        rcases mem_update_key key change rest member with same | ⟨old, inRest, same⟩
        · rw [same]
          cases h : before first.1 key
          · exact absurd (eq_of_not_before _ _ (by simpa using notLess) h) (by simpa using differ)
          · rfl
        · rw [← same]
          exact above old inRest

end Entry

/-- One entry for each of some keys, in the order of the keys. -/
structure Ledger (κ α : Type) [KeyOrder κ] where
  entries : List (κ × α)
  sorted : Entry.Sorted entries

namespace Ledger

variable {κ α : Type} [KeyOrder κ]

def empty : Ledger κ α := ⟨[], List.Pairwise.nil⟩

def get? (l : Ledger κ α) (key : κ) : Option α := Entry.find? key l.entries

def upsert (l : Ledger κ α) (key : κ) (change : Option α → α) : Ledger κ α :=
  ⟨Entry.update key change l.entries, Entry.update_sorted key change l.sorted⟩

def keys (l : Ledger κ α) : List κ := l.entries.map Prod.fst

def values (l : Ledger κ α) : List α := l.entries.map Prod.snd

def size (l : Ledger κ α) : Nat := l.entries.length

@[simp] theorem get?_empty (key : κ) : (empty : Ledger κ α).get? key = none := rfl

theorem get?_upsert_self (l : Ledger κ α) (key : κ) (change : Option α → α) :
    (l.upsert key change).get? key = some (change (l.get? key)) :=
  Entry.find?_update_self key change l.sorted

theorem get?_upsert_ne (l : Ledger κ α) {key other : κ} (differ : other ≠ key)
    (change : Option α → α) : (l.upsert key change).get? other = l.get? other :=
  Entry.find?_update_ne differ change l.entries

end Ledger

end UsageMetrics
