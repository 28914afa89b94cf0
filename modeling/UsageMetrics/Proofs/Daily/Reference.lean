import UsageMetrics.Daily.Intake
import UsageMetrics.Proofs.Daily.Mentions

namespace UsageMetrics.Metric

def MetricGroup.counters : MetricGroup → List Counter
  | .codeCompletions =>
    [.engagedUsers, .suggestions, .acceptances, .linesSuggested, .linesAccepted]
  | .ideChat => [.engagedUsers, .chats, .copyEvents, .insertionEvents]
  | .dotcomChat => [.engagedUsers, .chats]
  | .pullRequests => [.engagedUsers, .prSummaries]

end UsageMetrics.Metric

namespace UsageMetrics.Daily

open UsageMetrics.Metric UsageMetrics.Feed UsageMetrics.Text

/-- The entity that the entries of a name add up to; none, if the name is blank or there is no
such entry. -/
def addedUp? (r : DailyRecord) (group : MetricGroup) (dimension : Dimension) (name : String) :
    Option EntityCounts :=
  let own := (r.mentions group dimension).filter fun m => m.name = some name
  if allBlank name || own.isEmpty then none
  else some
    { group
      dimension
      name
      counts := .ofFn fun counter => (own.map fun m => m.amount counter).sum
      isCustom := own.any Mention.isCustom }

namespace Completions

/-- The users of a language: the ones that the group lists for it, however few, and where it lists
none, the most users of an entry below an editor and a model. -/
def languageUsers (listed : List LanguageUsers) (nested : List LanguageActivity) : Int :=
  if listed.isEmpty then ((nested.map LanguageActivity.engagedUsers).max?.getD 0 : Nat)
  else (listed.map fun l => (l.engagedUsers : Int)).sum

/-- The entity of a language: its users are told by the whole group, its events by the entries
below editors and models. -/
def language? (c : Completions) (name : String) : Option EntityCounts :=
  let listed := c.languages.filter fun l => l.tag.name = some name
  let nested := (nestedLanguages c).filter fun l => l.tag.name = some name
  if allBlank name || listed.isEmpty && nested.isEmpty then none
  else some
    { group := .codeCompletions
      dimension := .language
      name
      counts := .ofFn fun counter =>
        if counter = .engagedUsers then languageUsers listed nested
        else (nested.map fun l => (l.event counter : Int)).sum
      isCustom := false }

end Completions

namespace Completions

variable {key : EntityKey} {counter : Counter} (c : Completions)

theorem foldl_nestedUsers (l : LanguageActivity) (amount : Int) :
    (nestedUsers c l).foldl (Action.amend key counter.label) amount =
      if entryKey? .language l.tag = some key ∧ key ∉ listedKeys c ∧ counter = .engagedUsers then
        max amount l.engagedUsers
      else amount := by
  have users : (Counter.engagedUsers.label = counter.label) ↔ counter = .engagedUsers :=
    ⟨fun same => (Counter.label_injective same).symm, fun same => same ▸ rfl⟩
  unfold nestedUsers
  cases found : entryKey? .language l.tag with
  | none => simp
  | some own =>
    by_cases same : own = key
    · subst same
      by_cases listed : own ∈ listedKeys c <;> simp [listed, Action.amend, users]
    · by_cases listed : own ∈ listedKeys c <;> simp [listed, Action.amend, same]

theorem foldl_raised (amount : Int)
    (other : key.1 = .language → key ∈ listedKeys c ∨ counter ≠ .engagedUsers) :
    ((nestedLanguages c).flatMap (nestedUsers c)).foldl (Action.amend key counter.label) amount =
      amount := by
  rw [List.foldl_flatMap]
  induction nestedLanguages c with
  | nil => rfl
  | cons l rest ih =>
    rw [List.foldl_cons, foldl_nestedUsers, if_neg, ih]
    rintro ⟨own, unlisted, users⟩
    obtain ⟨dimension, name⟩ := key
    obtain ⟨language, -, -⟩ := entryKey?_eq_some_iff.mp own
    rcases other language.symm with listed | event
    · exact unlisted listed
    · exact event users

theorem foldl_raised_users {name : String} (named : allBlank name = false)
    (unlisted : (.language, name) ∉ listedKeys c) :
    ((nestedLanguages c).flatMap (nestedUsers c)).foldl
        (Action.amend (.language, name) Counter.engagedUsers.label) 0 =
      ((((nestedLanguages c).filter fun l => l.tag.name = some name).map
        LanguageActivity.engagedUsers).max?.getD 0 : Nat) := by
  have most (users : List Nat) : users.max?.getD 0 = users.foldl max 0 := by
    cases users with
    | nil => rfl
    | cons first rest => rw [List.max?_cons', List.foldl_cons, Nat.zero_max, Option.getD_some]
  have raised (entries : List LanguageActivity) (least : Nat) :
      entries.foldl (fun (amount : Int) l =>
        (nestedUsers c l).foldl (Action.amend (.language, name) Counter.engagedUsers.label) amount)
          least =
        (((entries.filter fun l => l.tag.name = some name).map
          LanguageActivity.engagedUsers).foldl max least : Nat) := by
    -- The fold carries the most users so far, whatever it starts from.
    induction entries generalizing least with
    | nil => rfl
    | cons l rest ih =>
      rw [List.foldl_cons, foldl_nestedUsers]
      by_cases own : l.tag.name = some name
      · have key : entryKey? .language l.tag = some (.language, name) :=
          entryKey?_eq_some_iff.mpr ⟨rfl, own, named⟩
        have cast : max (least : Int) l.engagedUsers = (max least l.engagedUsers : Nat) := by omega
        rw [if_pos ⟨key, unlisted, rfl⟩, cast, ih, List.filter_cons_of_pos (by simpa using own),
          List.map_cons, List.foldl_cons]
      · have key : entryKey? .language l.tag ≠ some (.language, name) := fun same =>
          own (entryKey?_eq_some_iff.mp same).2.1
        rw [if_neg fun known => key known.1, List.filter_cons_of_neg (by simpa using own), ih]
  rw [List.foldl_flatMap, most]
  exact raised _ 0

theorem mem_listedKeys {name : String} (named : allBlank name = false) :
    (.language, name) ∈ listedKeys c ↔ ∃ l ∈ c.languages, l.tag.name = some name := by
  simp [listedKeys, entryKey?_eq_some_iff, named]

theorem customBy_nestedUsers (l : LanguageActivity) : customBy (nestedUsers c l) = [] := by
  unfold nestedUsers
  cases entryKey? .language l.tag with
  | none => rfl
  | some own =>
    dsimp only
    split <;> rfl

end Completions

section Under

variable (r : DailyRecord) (day : String)

theorem keptBy_raising (group : MetricGroup) : keptBy (raising r group) = [] := by
  cases group with
  | codeCompletions => simp [raising, keptBy, acceptedBy_flatMap]
  | _ => rfl

theorem customBy_raising (group : MetricGroup) : customBy (raising r group) = [] := by
  cases group with
  | codeCompletions => simp [raising, customBy_flatMap, Completions.customBy_nestedUsers]
  | _ => rfl

theorem under_normalizeGroup (group : MetricGroup) (key : EntityKey) :
    (normalizeGroup r day group).1.under key =
      if key ∈ keptBy (adding r group) then
        [{ group
           dimension := key.1
           name := key.2
           counts := .ofFn fun counter => (raising r group).foldl (Action.amend key counter.label)
             (addedAt key counter.label (adding r group))
           isCustom := decide (key ∈ customBy (adding r group)) }]
      else [] := by
  have added (counter : Counter) :
      (adding r group).foldl (Action.amend key counter.label) 0 =
        addedAt key counter.label (adding r group) := by
    rw [foldl_amend_adding fun a member _ =>
      Action.isRaise_eq_false (adding_measures r group a member), Int.zero_add]
  have touched : key ∈ touchedBy (adding r group ++ raising r group) ↔
      key ∈ keptBy (adding r group) := by
    rw [← groupFeed_actions, mem_touchedBy_groupFeed, groupFeed_actions, keptBy_append,
      keptBy_raising, List.append_nil]
  simp only [normalizeGroup, groupFeed_actions, Breakdown.under_run, List.foldl_append, added,
    touched, customBy_append, customBy_raising, List.append_nil]

theorem foldl_raising {key : EntityKey} {counter : Counter} (group : MetricGroup) (amount : Int)
    (other : group = .codeCompletions → key.1 = .language →
      key ∈ Completions.listedKeys r.completions ∨ counter ≠ .engagedUsers) :
    (raising r group).foldl (Action.amend key counter.label) amount = amount := by
  cases group with
  | codeCompletions => exact Completions.foldl_raised r.completions amount (other rfl)
  | _ => rfl

theorem under_addedUp (group : MetricGroup) (dimension : Dimension) (name : String)
    (other : group = .codeCompletions → dimension ≠ .language) :
    (normalizeGroup r day group).1.under (dimension, name) =
      (addedUp? r group dimension name).toList := by
  have reports := reports_adding r group dimension other
  have raised (counter : Counter) (amount : Int) :
      (raising r group).foldl (Action.amend (dimension, name) counter.label) amount = amount :=
    foldl_raising r group amount fun completions language => absurd language (other completions)
  simp only [under_normalizeGroup, reports.kept, reports.custom, raised]
  cases named : allBlank name with
  | true => simp [addedUp?, named]
  | false =>
    by_cases mentioned : ∃ m ∈ r.mentions group dimension, m.name = some name
    · have own : ((r.mentions group dimension).filter fun m => m.name = some name) ≠ [] := by
        simpa using mentioned
      have custom : decide (∃ m ∈ r.mentions group dimension, m.name = some name ∧ m.isCustom = true) =
          ((r.mentions group dimension).filter fun m => m.name = some name).any Mention.isCustom := by
        rw [Bool.eq_iff_iff]
        simp
      rw [if_pos ⟨rfl, mentioned⟩]
      simp only [addedUp?, named, own, reports.added name named, true_and, custom, Bool.false_or,
        List.isEmpty_iff, ↓reduceIte, Option.toList_some]
    · have none : ((r.mentions group dimension).filter fun m => m.name = some name) = [] := by
        simpa using mentioned
      rw [if_neg fun known => mentioned known.2]
      simp [addedUp?, none]

section Language

variable (name : String)

theorem mentions_language : r.mentions .codeCompletions .language =
    (Completions.nestedLanguages r.completions).map LanguageActivity.mention := by
  simp [DailyRecord.mentions, Completions.nestedLanguages, List.map_flatMap]

theorem reports_nested : Reports .language (r.completions.editors.flatMap Completions.editorActions)
    ((Completions.nestedLanguages r.completions).map LanguageActivity.mention) := by
  rw [← mentions_language]
  exact .flatMap Completions.reports_languages

theorem kept_language : (.language, name) ∈ keptBy (adding r .codeCompletions) ↔
    allBlank name = false ∧ ((∃ l ∈ r.completions.languages, l.tag.name = some name) ∨
      ∃ l ∈ Completions.nestedLanguages r.completions, l.tag.name = some name) := by
  have listed : (.language, name) ∈ keptBy (r.completions.languages.map fun l =>
      .accept .language l.tag) ↔
        allBlank name = false ∧ ∃ l ∈ r.completions.languages, l.tag.name = some name := by
    rw [List.map_eq_flatMap, keptBy_flatMap]
    simp only [keptBy_accept, keptBy_nil, List.append_nil, List.mem_flatMap, Option.mem_toList,
      entryKey?_eq_some_iff, true_and, ← and_assoc, exists_and_right]
    exact and_comm
  have counted : keptBy (r.completions.languages.flatMap Completions.listedUsers) = [] := by
    simp [keptBy_flatMap, Completions.listedUsers]
  rw [adding, keptBy_append, keptBy_append, counted, List.append_nil, List.mem_append, listed,
    (reports_nested r).kept name, and_or_left]
  simp [LanguageActivity.mention]

theorem custom_language : (.language, name) ∉ customBy (adding r .codeCompletions) := by
  have listed : customBy (r.completions.languages.map fun l => .accept .language l.tag) = [] := by
    simp [List.map_eq_flatMap, customBy_flatMap]
  have counted : customBy (r.completions.languages.flatMap Completions.listedUsers) = [] := by
    simp [customBy_flatMap, Completions.listedUsers]
  rw [adding, customBy_append, customBy_append, listed, counted, List.append_nil, List.nil_append,
    (reports_nested r).custom name]
  simp [LanguageActivity.mention]

theorem added_language (named : allBlank name = false) (counter : Counter) :
    addedAt (.language, name) counter.label (adding r .codeCompletions) =
      if counter = .engagedUsers then
        ((r.completions.languages.filter fun l => l.tag.name = some name).map fun l =>
          (l.engagedUsers : Int)).sum
      else
        (((Completions.nestedLanguages r.completions).filter fun l => l.tag.name = some name).map
          fun l => (l.event counter : Int)).sum := by
  have listed : addedAt (.language, name) counter.label
      (r.completions.languages.map fun l => .accept .language l.tag) = 0 := by
    rw [List.map_eq_flatMap, addedAt_flatMap]
    simp
  have counted : addedAt (.language, name) counter.label
      (r.completions.languages.flatMap Completions.listedUsers) =
        ((r.completions.languages.filter fun l => l.tag.name = some name).map fun l =>
          countUnder counter [(.engagedUsers, l.engagedUsers)]).sum := by
    simp only [addedAt_flatMap, Completions.listedUsers, addedAt_addTo, entryKey?_eq_some_iff,
      named, true_and, and_true, List.sum_map_ite, List.sum_map_zero, add_zero]
  have nested : (((Completions.nestedLanguages r.completions).map LanguageActivity.mention).filter
      fun m => m.name = some name) =
        ((Completions.nestedLanguages r.completions).filter fun l => l.tag.name = some name).map
          LanguageActivity.mention := List.filter_map
  rw [adding, addedAt_append, addedAt_append, listed, counted, (reports_nested r).added name named,
    nested, List.map_map, Int.zero_add]
  by_cases users : counter = .engagedUsers
  · subst users
    simp [Function.comp_def, LanguageActivity.mention, Mention.amount, countUnder]
  · have differ : Counter.engagedUsers ≠ counter := fun back => users back.symm
    simp [Function.comp_def, LanguageActivity.mention, Mention.amount, countUnder, users, differ,
      eventSum]

/-- A language that the group lists is not raised, and one that it does not list has no users
before. -/
theorem users_language (named : allBlank name = false) :
    (raising r .codeCompletions).foldl (Action.amend (.language, name) Counter.engagedUsers.label)
        (addedAt (.language, name) Counter.engagedUsers.label (adding r .codeCompletions)) =
      Completions.languageUsers
        (r.completions.languages.filter fun l => l.tag.name = some name)
        ((Completions.nestedLanguages r.completions).filter fun l => l.tag.name = some name) := by
  rw [added_language r name named, if_pos rfl, Completions.languageUsers]
  by_cases listed : ∃ l ∈ r.completions.languages, l.tag.name = some name
  · have some : (r.completions.languages.filter fun l => l.tag.name = some name) ≠ [] := by
      simpa using listed
    rw [foldl_raising r .codeCompletions _ fun _ _ =>
      .inl ((Completions.mem_listedKeys r.completions named).mpr listed)]
    simp [some]
  · have none : (r.completions.languages.filter fun l => l.tag.name = some name) = [] := by
      simpa using listed
    have unlisted := mt (Completions.mem_listedKeys r.completions named).mp listed
    simp [none, raising, Completions.foldl_raised_users r.completions named unlisted]

theorem under_language : (normalizeGroup r day .codeCompletions).1.under (.language, name) =
    (Completions.language? r.completions name).toList := by
  cases named : allBlank name with
  | true => simp [under_normalizeGroup, kept_language, Completions.language?, named]
  | false =>
    have amounts (counter : Counter) :
        (raising r .codeCompletions).foldl (Action.amend (.language, name) counter.label)
          (addedAt (.language, name) counter.label (adding r .codeCompletions)) =
        if counter = .engagedUsers then
          Completions.languageUsers
            (r.completions.languages.filter fun l => l.tag.name = some name)
            ((Completions.nestedLanguages r.completions).filter fun l => l.tag.name = some name)
        else
          (((Completions.nestedLanguages r.completions).filter fun l => l.tag.name = some name).map
            fun l => (l.event counter : Int)).sum := by
      -- Users are told by the group where it lists the language, events by nested entries alone.
      by_cases users : counter = .engagedUsers
      · subst users
        rw [if_pos rfl, users_language r name named]
      · rw [added_language r name named, foldl_raising r .codeCompletions _ fun _ _ => .inr users,
          if_neg users, if_neg users]
    simp only [under_normalizeGroup, kept_language, amounts, custom_language, named, true_and]
    by_cases mentioned : (∃ l ∈ r.completions.languages, l.tag.name = some name) ∨
        ∃ l ∈ Completions.nestedLanguages r.completions, l.tag.name = some name
    · have some : ((r.completions.languages.filter fun l => l.tag.name = some name).isEmpty &&
          ((Completions.nestedLanguages r.completions).filter fun l =>
            l.tag.name = some name).isEmpty) = false := by
        simpa [or_iff_not_imp_left] using mentioned
      rw [if_pos mentioned]
      simp [Completions.language?, named, some]
    · have none : ((r.completions.languages.filter fun l => l.tag.name = some name).isEmpty &&
          ((Completions.nestedLanguages r.completions).filter fun l =>
            l.tag.name = some name).isEmpty) = true := by
        simpa using mentioned
      rw [if_neg mentioned]
      simp [Completions.language?, none]

end Language

section Foreign

variable {r day} {group : MetricGroup} {counter : Counter}

theorem innermost_foreign (foreign : counter ∉ group.counters) :
    ∀ event ∈ r.innermost group, event counter = 0 := by
  cases group with
  | codeCompletions =>
    simp only [DailyRecord.innermost, List.mem_flatMap, List.mem_map]
    rintro event ⟨e, -, m, -, l, -, rfl⟩
    cases counter <;> first | rfl | exact absurd (by decide) foreign
  | ideChat =>
    simp only [DailyRecord.innermost, List.mem_flatMap, List.mem_map]
    rintro event ⟨e, -, m, -, rfl⟩
    cases counter <;> first | rfl | exact absurd (by decide) foreign
  | dotcomChat =>
    simp only [DailyRecord.innermost, List.mem_map]
    rintro event ⟨m, -, rfl⟩
    cases counter <;> first | rfl | exact absurd (by decide) foreign
  | pullRequests =>
    simp only [DailyRecord.innermost, List.mem_flatMap, List.mem_map]
    rintro event ⟨p, -, m, -, rfl⟩
    cases counter <;> first | rfl | exact absurd (by decide) foreign

theorem addedAt_silent {key : EntityKey} {actions : List Action} {events : List (Counter → Nat)}
    (measures : ∀ a ∈ actions, a.Measures events) (users : counter ≠ .engagedUsers)
    (silent : ∀ event ∈ events, event counter = 0) : addedAt key counter.label actions = 0 := by
  have each : ∀ a ∈ actions, a.addedAt key counter.label = 0 := by
    intro action member
    cases action with
    | add other amounts =>
      obtain ⟨event, known, counted⟩ := measures _ member
      have nothing : event counter = 0 := known.elim (fun zero => zero counter) (silent event)
      simp [Action.addedAt, counted counter users, nothing]
    | _ => rfl
  rw [addedAt, List.map_congr_left each]
  exact List.sum_map_zero

theorem entities_foreign (foreign : counter ∉ group.counters) :
    ∀ e ∈ (normalizeGroup r day group).1.entities, e.counts.get counter = 0 := by
  intro e member
  have users : counter ≠ .engagedUsers := by
    rintro rfl
    cases group <;> exact foreign (by decide)
  have own : e ∈ (normalizeGroup r day group).1.under (e.dimension, e.name) :=
    List.mem_filter.mpr ⟨member, by simp⟩
  rw [under_normalizeGroup] at own
  split at own
  · have added : addedAt (e.dimension, e.name) counter.label (adding r group) = 0 :=
      addedAt_silent (adding_measures r group) users (innermost_foreign foreign)
    rw [List.mem_singleton.mp own, Counts.get_ofFn, foldl_raising r group _ fun _ _ => .inr users,
      added]
  · cases own

end Foreign

/-- Users that the group lists count even if they are none. -/
example : Completions.languageUsers [⟨⟨some "go", []⟩, 0⟩] [⟨⟨some "go", []⟩, 5, 1, 0, 1, 0⟩] = 0 := by
  decide

end Under

end UsageMetrics.Daily
