import UsageMetrics.Daily.SnapshotReading
import UsageMetrics.Requests

namespace UsageMetrics

open UsageMetrics.Feed UsageMetrics.Metric UsageMetrics.Daily UsageMetrics.Text

def choiceOf {α : Type} (members : String) (ofLabel? : String → Option α) (v : Value) :
    Except Failure α :=
  match v with
  | .text s => (ofLabel? s).elim (.error (.notMember v members)) .ok
  | _ => .error (.notMember v members)

def groupOf : Value → Except Failure MetricGroup := choiceOf "MetricGroup" MetricGroup.ofLabel?

def dimensionOf : Value → Except Failure Dimension := choiceOf "Dimension" Dimension.ofLabel?

def tagOf (name repaired : Value) : Except Failure Tag :=
  match Shape.languageUsers.read (.object [("name", name), (repairedKey, repaired)]) with
  | (record, []) => .ok record.tag
  | (_, issues) => .error (.rejected ⟨Shape.languageUsers.name, issues⟩)

def engagedUsersOf (v : Value) : Except Failure Int :=
  v.readInteger.mapError fun cause =>
    .rejected ⟨GroupSnapshot.shape, [⟨["total_engaged_users"], cause⟩]⟩

abbrev OpenKey := Dimension × Value

/-- What is asked of the counts of a group; the key of what is to be counted may be lacking. -/
inductive Deed where
  | accept (dimension : Dimension) (tag : Tag)
  | add (key : Option OpenKey) (counters : Value)
  | raise (key : Option OpenKey) (label amount : Value)
  | custom (key : Option OpenKey)
  | snapshot (engagedUsers : Value)
  | nothing

inductive Reply where
  | nothing
  | key (key : Option EntityKey)
  | group (s : GroupSnapshot)

/-- What can be seen of the counts of a group: the touched counters of its entities, in their
order, and the warnings so far. -/
structure Sight where
  counts : List (OpenKey × List (Value × Value))
  warnings : List Warning

structure Course where
  answers : List (Except Failure Reply × Sight)
  failure : Option Failure

namespace Course

def result (c : Course) : Except Failure (List (Except Failure Reply × Sight)) :=
  match c.failure with
  | some f => .error f
  | none => .ok c.answers

def warnings (c : Course) : List Warning := (c.answers.getLast?.map (·.2.warnings)).getD []

/-- Follows some deeds, of which those that cannot be read change nothing, and then fails if
anything stands behind them that fails. -/
def follow {σ : Type} (perform : σ → Deed → σ × Except Failure Reply)
    (sight : σ → Except Failure Sight) (behind : Option Failure) :
    σ → List (Except Failure Deed) → Course
  | _, [] => ⟨[], behind⟩
  | s, deed :: rest =>
    let (s, answer) := match deed with
      | .ok deed => perform s deed
      | .error f => (s, .error f)
    match sight s with
    | .error f => ⟨[], some f⟩
    | .ok seen =>
      let course := follow perform sight behind s rest
      { course with answers := (answer, seen) :: course.answers }

end Course

end UsageMetrics
