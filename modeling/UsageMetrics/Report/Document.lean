import UsageMetrics.Number.Binary64.Text
import UsageMetrics.Text.Quoted

namespace UsageMetrics.Report

open UsageMetrics.Number UsageMetrics.Text

inductive Document where
  | null
  | bool (value : Bool)
  | integer (value : Int)
  | number (value : Binary64)
  | text (value : String)
  | list (elements : List Document)
  | object (fields : List (String × Document))
  deriving Inhabited

namespace Document

def escape (c : Char) : List Char :=
  if c = Quoted.quotationMark ∨ c = Quoted.backslash then [Quoted.backslash, c]
  else if c = '\n' then [Quoted.backslash, 'n']
  else if c = '\r' then [Quoted.backslash, 'r']
  else if c = '\t' then [Quoted.backslash, 't']
  else if c.toNat = 8 then [Quoted.backslash, 'b']
  else if c.toNat = 12 then [Quoted.backslash, 'f']
  else if c.toNat < 32 then [Quoted.backslash, 'u'] ++ Quoted.hexText 4 c.toNat
  else [c]

def literal (s : String) : String :=
  String.ofList ([Quoted.quotationMark] ++ s.toList.flatMap escape ++ [Quoted.quotationMark])

def numeral : Binary64 → String
  | .infinite negative => Binary64.withSign negative "Infinity"
  | .nan => "NaN"
  | x => x.render

mutual

def render : Document → String
  | .null => "null"
  | .bool value => if value then "true" else "false"
  | .integer value => toString value
  | .number value => numeral value
  | .text value => literal value
  | .list elements => "[" ++ ",".intercalate (renderAll elements) ++ "]"
  | .object fields => "\x7b" ++ ",".intercalate (renderFields fields) ++ "\x7d"

def renderAll : List Document → List String
  | [] => []
  | element :: rest => element.render :: renderAll rest

def renderFields : List (String × Document) → List String
  | [] => []
  | field :: rest => renderField field :: renderFields rest

def renderField : String × Document → String
  | (key, value) => literal key ++ ":" ++ value.render

end

def ofOption {α : Type} (encode : α → Document) : Option α → Document
  | none => .null
  | some a => encode a

def texts (values : List String) : Document := .list (values.map .text)

end Document

end UsageMetrics.Report
