namespace UsageMetrics.Feed

mutual

inductive Field where
  | text (value : Option String)
  | count (value : Nat)
  | flag (value : Bool)
  | one (record : Record)
  | many (records : List Record)

/-- A validated record of the telemetry feed: the names of the fields that were reset to their
defaults, and all fields in their declared order. -/
inductive Record where
  | mk (repaired : List String) (fields : List (String × Field))

end

namespace Record

def repaired : Record → List String
  | .mk repaired _ => repaired

def fields : Record → List (String × Field)
  | .mk _ fields => fields

def blank : Record := .mk [] []

def find? (r : Record) (name : String) : Option Field := r.fields.lookup name

def text (r : Record) (name : String) : Option String :=
  match r.find? name with
  | some (.text value) => value
  | _ => none

def count (r : Record) (name : String) : Nat :=
  match r.find? name with
  | some (.count value) => value
  | _ => 0

def flag (r : Record) (name : String) : Bool :=
  match r.find? name with
  | some (.flag value) => value
  | _ => false

def one (r : Record) (name : String) : Record :=
  match r.find? name with
  | some (.one record) => record
  | _ => blank

def many (r : Record) (name : String) : List Record :=
  match r.find? name with
  | some (.many records) => records
  | _ => []

end Record

end UsageMetrics.Feed
