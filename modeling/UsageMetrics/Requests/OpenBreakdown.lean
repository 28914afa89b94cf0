import UsageMetrics.Feed.Comparison
import UsageMetrics.Feed.RunSort
import UsageMetrics.Requests.Breakdown

namespace UsageMetrics

open UsageMetrics.Feed UsageMetrics.Metric UsageMetrics.Daily

namespace OpenKey

def isSame (a b : Option OpenKey) : Bool :=
  match a, b with
  | some a, some b => a.1 = b.1 && a.2.keyText = b.2.keyText
  | none, none => true
  | _, _ => false

def namePrecedes? : Value → Value → Option Bool
  | .text s, .text t => some (s < t)
  | a, b => b.exceeds? a

def kind (key : Option OpenKey) : String := (key.elim Value.null fun _ => .tuple []).kind

/-- A lacking key has no order beside others. -/
def precedes (a b : Option OpenKey) : Except Failure Bool :=
  match a, b with
  | some a, some b =>
    if a.1 = b.1 then
      match namePrecedes? a.2 b.2 with
      | some first => .ok first
      | none => .error (.operand (.unordered "<" a.2.kind b.2.kind))
    else .ok (a.1.label < b.1.label)
  | a, b => .error (.operand (.unordered "<" (kind a) (kind b)))

def check (key : Option OpenKey) : Except Failure Unit :=
  match key with
  | some (_, name) => if name.isHashable then .ok () else .error (.unhashable name.kind)
  | none => .ok ()

end OpenKey

def changeUnder {κ α : Type} (same : κ → κ → Bool) (key : κ) (change : Option α → α) :
    List (κ × α) → List (κ × α)
  | [] => [(key, change none)]
  | (other, a) :: rest =>
    if same other key then (other, change (some a)) :: rest
    else (other, a) :: changeUnder same key change rest

/-- Touched counters in the order in which they were first touched. -/
abbrev OpenBucket := List (Value × Value)

namespace OpenBucket

def isSame (a b : Value) : Bool := a.keyText = b.keyText

def get (b : OpenBucket) (label : Value) : Value :=
  ((b.find? fun counter => isSame counter.1 label).map Prod.snd).getD (.integer 0)

def set (b : OpenBucket) (label v : Value) : OpenBucket :=
  changeUnder isSame label (fun _ => v) b

/-- A counter is touched even if nothing can be added to it. -/
def addOne (b : OpenBucket) (label v : Value) : OpenBucket × Except Failure Unit :=
  match (b.get label).sum v with
  | .ok total => (b.set label total, .ok ())
  | .error fault => (b.set label (b.get label), .error (.operand fault))

def addAll (b : OpenBucket) : List (String × Value) → OpenBucket × Except Failure Unit
  | [] => (b, .ok ())
  | (label, v) :: rest =>
    match b.addOne (.text label) v with
    | (b, .ok ()) => addAll b rest
    | failed => failed

def raise (b : OpenBucket) (label v : Value) : OpenBucket × Except Failure Unit :=
  let old := b.get label
  if ¬ label.isHashable then (b, .error (.unhashable label.kind))
  else
    match v.exceeds? old with
    | some larger => (b.set label (if larger then v else old), .ok ())
    | none => (b.set label old, .error (.operand (.unordered ">" v.kind old.kind)))

def labelled? (b : OpenBucket) : Option (List (String × Value)) :=
  b.mapM fun counter =>
    match counter with
    | (.text label, v) => some (label, v)
    | _ => none

end OpenBucket

/-- The counts of one group on one day, where names and amounts may be of any kind. -/
structure OpenBreakdown where
  counts : List (Option OpenKey × OpenBucket)
  custom : List (Option OpenKey)
  warnings : List Warning

namespace OpenBreakdown

def empty : OpenBreakdown := ⟨[], [], []⟩

def bucket (b : OpenBreakdown) (key : Option OpenKey) : OpenBucket :=
  ((b.counts.find? fun entry => OpenKey.isSame entry.1 key).map Prod.snd).getD []

/-- A change to the counters under a key, which is touched even if the change fails. -/
def change (b : OpenBreakdown) (key : Option OpenKey)
    (f : OpenBucket → OpenBucket × Except Failure Unit) :
    OpenBreakdown × Except Failure Reply :=
  match OpenKey.check key with
  | .error failure => (b, .error failure)
  | .ok () =>
    let (bucket, result) := f (b.bucket key)
    ({ b with counts := changeUnder OpenKey.isSame key (fun _ => bucket) b.counts },
      result.map fun _ => .nothing)

def addSignature : Signature := ⟨"_DayBreakdown.add()", ["key"], [], true⟩

def add (b : OpenBreakdown) (key : Option OpenKey) (counters : Value) :
    OpenBreakdown × Except Failure Reply :=
  match counters with
  | .object counters =>
    match counters.find? fun counter => addSignature.isParameter counter.1 with
    | some (name, _) => (b, .error (.misfit addSignature (.repeated name)))
    | none => b.change key fun bucket => bucket.addAll counters
  | v => (b, .error (.notMapping ("normalizer." ++ addSignature.operation) v.kind))

def markCustom (b : OpenBreakdown) (key : Option OpenKey) :
    OpenBreakdown × Except Failure Reply :=
  match OpenKey.check key with
  | .error failure => (b, .error failure)
  | .ok () => ({ b with custom := key :: b.custom }, .ok .nothing)

def sorted (b : OpenBreakdown) : Except Failure (List (OpenKey × OpenBucket)) := do
  let entries ← RunSort.sort (fun a b => OpenKey.precedes a.1 b.1) b.counts
  entries.mapM fun entry =>
    match entry with
    | (some key, bucket) => .ok (key, bucket)
    | (none, _) => .error Failure.keyless

def ownLabels : List String := ["group", "dimension", "name", "is_custom_model"]

def entity (group : MetricGroup) (b : OpenBreakdown) (entry : OpenKey × OpenBucket) :
    Except Failure EntityCounts :=
  let (key, bucket) := entry
  let repeated := bucket.findSome? fun counter =>
    ownLabels.find? fun label => OpenBucket.isSame counter.1 (.text label)
  match repeated with
  | some label => .error (.repeatedKeyword ("models." ++ EntityCounts.shape ++ "()") label)
  | none =>
    let own : List (String × Value) :=
      [("group", .text group.label), ("dimension", .text key.1.label), ("name", key.2),
        ("is_custom_model", .bool (b.custom.any (OpenKey.isSame (some key))))]
    match bucket.labelled? with
    | none => .error .oddKeyword
    | some counters =>
      match EntityCounts.read (.object (own ++ counters)) with
      | (e, []) => .ok e
      | (_, issues) => .error (.rejected ⟨EntityCounts.shape, issues⟩)

def snapshot (group : MetricGroup) (engagedUsers : Value) (b : OpenBreakdown) :
    Except Failure GroupSnapshot := do
  let entities ← (← b.sorted).mapM (b.entity group)
  return ⟨group, ← engagedUsersOf engagedUsers, entities⟩

def perform (group : MetricGroup) (day : String) (b : OpenBreakdown) :
    Deed → OpenBreakdown × Except Failure Reply
  | .accept dimension tag =>
    ({ b with warnings := b.warnings ++ Breakdown.warningsOn group day dimension tag },
      .ok (.key (entryKey? dimension tag)))
  | .add key counters => b.add key counters
  | .raise key label v => b.change key fun bucket => bucket.raise label v
  | .custom key => b.markCustom key
  | .snapshot engagedUsers => (b, (b.snapshot group engagedUsers).map .group)
  | .nothing => (b, .ok .nothing)

def sight (b : OpenBreakdown) : Except Failure Sight :=
  b.sorted.map fun counts => ⟨counts, b.warnings⟩

end OpenBreakdown

def Course.of (group : MetricGroup) (day : String) (deeds : List (Except Failure Deed))
    (behind : Option Failure) : Course :=
  let isPlain (deed : Except Failure Deed) : Bool := deed.toOption.all Deed.isPlain
  if deeds.all isPlain then
    follow (Breakdown.perform group day) (fun b => .ok b.sight) behind .empty deeds
  else follow (OpenBreakdown.perform group day) OpenBreakdown.sight behind .empty deeds

end UsageMetrics
