import UsageMetrics.Feed.Value

namespace UsageMetrics.Feed

structure NotIterable where
  kind : String
  deriving DecidableEq, Repr

def NotIterable.message (n : NotIterable) : String := "'" ++ n.kind ++ "' object is not iterable"

def Value.elements (v : Value) : Except NotIterable (List Value) :=
  match v.elements? with
  | some values => .ok values
  | none => .error ⟨v.kind⟩

end UsageMetrics.Feed
