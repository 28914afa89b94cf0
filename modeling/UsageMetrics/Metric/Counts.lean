namespace UsageMetrics.Metric

inductive Counter where
  | engagedUsers
  | suggestions
  | acceptances
  | linesSuggested
  | linesAccepted
  | chats
  | copyEvents
  | insertionEvents
  | prSummaries
  deriving DecidableEq, Repr

namespace Counter

def all : List Counter :=
  [engagedUsers, suggestions, acceptances, linesSuggested, linesAccepted, chats, copyEvents,
    insertionEvents, prSummaries]

def label : Counter → String
  | engagedUsers => "engaged_users"
  | suggestions => "suggestions"
  | acceptances => "acceptances"
  | linesSuggested => "lines_suggested"
  | linesAccepted => "lines_accepted"
  | chats => "chats"
  | copyEvents => "copy_events"
  | insertionEvents => "insertion_events"
  | prSummaries => "pr_summaries"

def ofLabel? (s : String) : Option Counter := all.find? fun counter => counter.label = s

end Counter

@[ext]
structure Counts where
  engagedUsers : Int
  suggestions : Int
  acceptances : Int
  linesSuggested : Int
  linesAccepted : Int
  chats : Int
  copyEvents : Int
  insertionEvents : Int
  prSummaries : Int
  deriving DecidableEq, Repr

namespace Counts

def get (c : Counts) : Counter → Int
  | .engagedUsers => c.engagedUsers
  | .suggestions => c.suggestions
  | .acceptances => c.acceptances
  | .linesSuggested => c.linesSuggested
  | .linesAccepted => c.linesAccepted
  | .chats => c.chats
  | .copyEvents => c.copyEvents
  | .insertionEvents => c.insertionEvents
  | .prSummaries => c.prSummaries

def ofFn (f : Counter → Int) : Counts where
  engagedUsers := f .engagedUsers
  suggestions := f .suggestions
  acceptances := f .acceptances
  linesSuggested := f .linesSuggested
  linesAccepted := f .linesAccepted
  chats := f .chats
  copyEvents := f .copyEvents
  insertionEvents := f .insertionEvents
  prSummaries := f .prSummaries

@[simp] theorem get_ofFn (f : Counter → Int) (counter : Counter) :
    (ofFn f).get counter = f counter := by
  cases counter <;> rfl

theorem ext_get {a b : Counts} (same : ∀ counter, a.get counter = b.get counter) : a = b :=
  Counts.ext (same .engagedUsers) (same .suggestions) (same .acceptances) (same .linesSuggested)
    (same .linesAccepted) (same .chats) (same .copyEvents) (same .insertionEvents)
    (same .prSummaries)

def zero : Counts := ofFn fun _ => 0

instance : Add Counts := ⟨fun a b => ofFn fun counter => a.get counter + b.get counter⟩

@[simp] theorem get_zero (counter : Counter) : zero.get counter = 0 := get_ofFn _ _

@[simp] theorem get_add (a b : Counts) (counter : Counter) :
    (a + b).get counter = a.get counter + b.get counter := get_ofFn _ _

end Counts

end UsageMetrics.Metric
