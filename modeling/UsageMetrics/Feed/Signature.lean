import UsageMetrics.Feed.Value

namespace UsageMetrics.Feed

/-- The parameters of an operation by their names. The first ones must be given; an operation of an
object also counts the object itself. -/
structure Signature where
  operation : String
  required : List String
  optional : List String
  ofObject : Bool
  deriving DecidableEq, Repr

namespace Signature

def parameters (s : Signature) : List String := s.required ++ s.optional

def receiver : String := "self"

inductive Misfit where
  | repeated (name : String)
  | unknown (name : String)
  | tooMany (count : Nat)
  | missing (names : List String)
  deriving DecidableEq, Repr

def takenBy (s : Signature) (count : Nat) (name : String) : Bool :=
  (s.ofObject && name = receiver) || (s.parameters.take count).contains name

def isParameter (s : Signature) (name : String) : Bool :=
  s.parameters.contains name || (s.ofObject && name = receiver)

def namedMisfit? (s : Signature) (count : Nat) (named : List (String × Value)) : Option Misfit :=
  named.findSome? fun (name, _) =>
    if !s.isParameter name then some (.unknown name)
    else if s.takenBy count name then some (.repeated name)
    else none

def lacking (s : Signature) (count : Nat) (named : List (String × Value)) : List String :=
  (s.required.drop count).filter fun name => (named.lookup name).isNone

def bind (s : Signature) (args : List Value) (named : List (String × Value)) :
    Except Misfit (List (String × Value)) :=
  match s.namedMisfit? args.length named with
  | some misfit => .error misfit
  | none =>
    if s.parameters.length < args.length then .error (.tooMany args.length)
    else
      let lacking := s.lacking args.length named
      if lacking.isEmpty then .ok (s.parameters.zip args ++ named) else .error (.missing lacking)

def quotedName (name : String) : String := "'" ++ name ++ "'"

/-- Several names end with a word, and with a comma before it if there are more than two. -/
def enumerate : List String → String
  | [] => ""
  | [only] => quotedName only
  | [first, last] => quotedName first ++ " and " ++ quotedName last
  | names => ", ".intercalate (names.dropLast.map quotedName) ++ ", and " ++
      ((names.getLast?.map quotedName).getD "")

def room (s : Signature) : String :=
  let own := if s.ofObject then 1 else 0
  let most := s.parameters.length + own
  if s.optional.isEmpty then
    toString most ++ " positional argument" ++ if most = 1 then "" else "s"
  else
    "from " ++ toString (s.required.length + own) ++ " to " ++ toString most ++
      " positional arguments"

def message (s : Signature) : Misfit → String
  | .repeated name => s.operation ++ " got multiple values for argument " ++ quotedName name
  | .unknown name => s.operation ++ " got an unexpected keyword argument " ++ quotedName name
  | .tooMany count =>
    let given := count + if s.ofObject then 1 else 0
    s.operation ++ " takes " ++ s.room ++ " but " ++ toString given ++
      if given = 1 then " was given" else " were given"
  | .missing names =>
    s.operation ++ " missing " ++ toString names.length ++ " required positional argument" ++
      (if names.length = 1 then "" else "s") ++ ": " ++ enumerate names

end Signature

end UsageMetrics.Feed
