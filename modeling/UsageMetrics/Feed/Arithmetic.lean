import UsageMetrics.Feed.Value
import UsageMetrics.Number.Binary64.Arithmetic
import UsageMetrics.Number.Percentage

namespace UsageMetrics.Feed

open UsageMetrics.Number

inductive Amount where
  | whole (n : Int)
  | floating (x : Binary64)
  deriving DecidableEq, Repr

namespace Amount

def toFloat? : Amount → Option Binary64
  | whole n =>
    match Binary64.ofInt n with
    | .infinite _ => none
    | x => some x
  | floating x => some x

/-- Two integers stay exact; otherwise both become floating point numbers. -/
def combine? (exact : Int → Int → Int) (rounded : Binary64 → Binary64 → Binary64)
    (a b : Amount) : Option Amount :=
  match a, b with
  | whole m, whole n => some (whole (exact m n))
  | _, _ => do return floating (rounded (← a.toFloat?) (← b.toFloat?))

def plus? : Amount → Amount → Option Amount := combine? (· + ·) Binary64.plus

def times? : Amount → Amount → Option Amount := combine? (· * ·) Binary64.times

def floorDivide? : Amount → Amount → Option Amount := combine? Int.fdiv Binary64.floorDivide

def toValue : Amount → Value
  | whole n => .integer n
  | floating x => .float x

/-- A number or, as it is not at most zero, what is none. -/
def isPositive : Amount → Bool
  | whole n => 0 < n
  | floating x => !x.isZero && !x.isNegative

end Amount

def Value.amount? : Value → Option Amount
  | .integer n => some (.whole n)
  | .bool b => some (.whole (if b then 1 else 0))
  | .float x => some (.floating x)
  | _ => none

inductive OperandFault where
  | unsupported (operator kind other : String)
  | unordered (operator kind other : String)
  /-- What repeats like a list is only continued by its own kind. -/
  | discontinued (kind other : String)
  | oversized
  deriving DecidableEq, Repr

namespace OperandFault

def message : OperandFault → String
  | unsupported operator kind other =>
    "unsupported operand type(s) for " ++ operator ++ ": '" ++ kind ++ "' and '" ++ other ++ "'"
  | unordered operator kind other =>
    "'" ++ operator ++ "' not supported between instances of '" ++ kind ++ "' and '" ++ other ++ "'"
  | discontinued kind other =>
    "can only concatenate " ++ kind ++ " (not \"" ++ other ++ "\") to " ++ kind
  | oversized => "int too large to convert to float"

end OperandFault

namespace Value

def integerKind : String := (Value.integer 0).kind

def sum (a b : Value) : Except OperandFault Value :=
  match a.amount?, b.amount? with
  | some m, some n =>
    match m.plus? n with
    | some total => .ok total.toValue
    | none => .error .oversized
  | _, _ => .error (.unsupported "+=" a.kind b.kind)

def partFault (part whole : Value) : OperandFault :=
  match part with
  | .text _ => .discontinued part.kind whole.kind
  | .list _ => .discontinued part.kind whole.kind
  | _ => .unsupported "*" integerKind part.kind

def roundedShare? (part whole : Amount) : Option Amount := do
  let raised ← (← (Amount.whole 200).times? part).plus? whole
  raised.floorDivide? (← (Amount.whole 2).times? whole)

/-- The percentage that one number is of another; without a positive whole the part is not looked
at. -/
def share (part whole : Value) : Except OperandFault Value :=
  match whole.amount? with
  | none => .error (.unordered "<=" whole.kind integerKind)
  | some total =>
    if !total.isPositive then .ok (.integer 0)
    else
      match part.amount?, total with
      | none, _ => .error (partFault part whole)
      | some (.whole n), .whole d => .ok (.integer (percentage n d))
      | some portion, _ =>
        match roundedShare? portion total with
        | some rate => .ok rate.toValue
        | none => .error .oversized

end Value

end UsageMetrics.Feed
