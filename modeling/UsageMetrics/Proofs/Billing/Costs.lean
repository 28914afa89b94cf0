import UsageMetrics.Billing.Costs

namespace UsageMetrics.Billing

open UsageMetrics.Feed

def modelUnder (settings : Settings) (i : Item) : Option String :=
  (nameOf? i).or (match settings.unknownModel with
    | .text name => some name
    | _ => none)

structure Priceable (settings : Settings) (items : List Item) : Prop where
  currency : ∃ currency, settings.currency = .text currency
  models : ∀ i ∈ items, (modelUnder settings i).isSome

theorem modelUnder_of_readUnknown {settings : Settings} {items : List Item} {unknown : String}
    (read : readUnknown settings.unknownModel items = .ok unknown) {i : Item} (member : i ∈ items) :
    modelUnder settings i = some (modelOf unknown i) := by
  unfold readUnknown at read
  split at read
  · rename_i name given
    cases read
    simp only [modelUnder, modelOf, given]
    cases nameOf? i <;> rfl
  · split at read
    · rename_i named
      have own := List.all_eq_true.mp named i member
      obtain ⟨name, known⟩ := Option.isSome_iff_exists.mp own
      simp [modelUnder, modelOf, known]
    · cases read

theorem readUnknown_ok_iff {settings : Settings} {items : List Item} :
    (∃ unknown, readUnknown settings.unknownModel items = .ok unknown) ↔
      ∀ i ∈ items, (modelUnder settings i).isSome := by
  constructor
  · intro known i member
    rcases known with ⟨unknown, read⟩
    rw [modelUnder_of_readUnknown read member]
    rfl
  · intro known
    unfold readUnknown
    split
    · exact ⟨_, rfl⟩
    · rename_i other
      have named : ∀ i ∈ items, (nameOf? i).isSome := by
        intro i member
        have own := known i member
        unfold modelUnder at own
        split at own
        · exact absurd ‹_› (other _)
        · rwa [Option.or_none] at own
      rw [if_pos (List.all_eq_true.mpr named)]
      exact ⟨_, rfl⟩

theorem readCurrency_ok_iff {value : Value} :
    (∃ currency, readCurrency value = .ok currency) ↔ ∃ currency, value = .text currency := by
  cases value <;> simp [readCurrency]

theorem costs_ok_iff {settings : Settings} {items : List Item} {skipped : Nat}
    {m : PremiumMetrics} :
    costs settings items skipped = .ok m ↔ ∃ unknown rows total currency,
      readUnknown settings.unknownModel items = .ok unknown ∧
      breakdown? unknown items = some (rows, total) ∧
      readCurrency settings.currency = .ok currency ∧
      m = ⟨currency, items.length, skipped, total, rows⟩ := by
  unfold costs
  cases named : readUnknown settings.unknownModel items with
  | error fault => simp [Bind.bind, Except.bind]
  | ok unknown =>
    cases broken : breakdown? unknown items with
    | none => simp [Bind.bind, Except.bind, broken, throw, throwThe, MonadExceptOf.throw]
    | some result =>
      obtain ⟨rows, total⟩ := result
      cases money : readCurrency settings.currency with
      | error fault => simp [Bind.bind, Except.bind, broken]
      | ok currency =>
        simp only [Bind.bind, Except.bind, broken, Pure.pure, Except.pure, Except.ok.injEq]
        constructor
        · intro priced
          exact ⟨unknown, rows, total, currency, rfl, broken, rfl, priced.symm⟩
        · intro known
          rcases known with ⟨_, _, _, _, rfl, found, rfl, rfl⟩
          rw [broken] at found
          cases found
          rfl

theorem premium_found_iff {settings : Settings} {raws : List Value} (present : validItems raws ≠ [])
    {m : PremiumMetrics} : premium settings raws = .ok (.found m) ↔
      costs settings (validItems raws) (invalidItems raws).length = .ok m := by
  simp only [premium, List.isEmpty_iff, if_neg present]
  cases costs settings (validItems raws) (invalidItems raws).length <;> simp [Except.map]

end UsageMetrics.Billing
