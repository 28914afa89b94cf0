import UsageMetrics.Feed.Integer

namespace UsageMetrics.Feed

def optionalField {α : Type} (given : List (String × Value)) (key : String) (default : α)
    (read : Value → Except Cause α) : α × List Issue :=
  match given.lookup key with
  | none => (default, [])
  | some value =>
    match read value with
    | .ok a => (a, [])
    | .error cause => (default, [⟨[key], cause⟩])

def requiredField {α : Type} (given : List (String × Value)) (key : String) (stand : α)
    (read : Value → Except Cause α) : α × List Issue :=
  match given.lookup key with
  | none => (stand, [⟨[key], .missing⟩])
  | some _ => optionalField given key stand read

def countField (given : List (String × Value)) (key : String) : Int × List Issue :=
  optionalField given key 0 Value.readInteger

namespace Value

def readText : Value → Except Cause String
  | .text s => .ok s
  | _ => .error .notText

def readBounded (least : Nat) (most : Option Nat) (v : Value) : Except Cause String :=
  match v.readText with
  | .error cause => .error cause
  | .ok s =>
    if s.length < least then .error (.tooShort least)
    else if most.any (· < s.length) then .error (.tooLong (most.getD 0))
    else .ok s

def readChoice {α : Type} (ofLabel? : String → Option α) (labels : List String) :
    Value → Except Cause α
  | .text s =>
    match ofLabel? s with
    | some a => .ok a
    | none => .error (.notAmong labels)
  | _ => .error (.notAmong labels)

def flagOfInteger (n : Int) : Except Cause Bool :=
  if n = 0 then .ok false else if n = 1 then .ok true else .error .notFlag

/-- A flag in one of its words or as zero or one. Integers too large for a machine word are
nothing like a flag. -/
def readFlag : Value → Except Cause Bool
  | .bool b => .ok b
  | .integer n =>
    if n < -floatingLimit ∨ floatingLimit ≤ n then .error .notBool else flagOfInteger n
  | .float x =>
    match x.toInt? with
    | some n => if floatingLimit ≤ n.natAbs then .error .notBool else flagOfInteger n
    | none => .error .notBool
  | .text s =>
    if setWords.contains (lower s.toList) then .ok true
    else if unsetWords.contains (lower s.toList) then .ok false
    else .error .notFlag
  | _ => .error .notBool

end Value

end UsageMetrics.Feed
