import UsageMetrics.Feed.Telemetry
import UsageMetrics.Proofs.Feed.Trimming

namespace UsageMetrics.Feed

def Value.given : Value → List (String × Value)
  | .object given => given
  | _ => []

def listUnder (given : List (String × Value)) (key : String) : List Value :=
  ((Value.at? given key).bind Value.listed?).getD []

def textUnder (given : List (String × Value)) (key : String) : Option String :=
  match Value.at? given key with
  | some (.text s) => some s
  | _ => none

/-- A record in a list of the feed: the key of the list, the fields that its records are declared
to have, and what the record gives. -/
structure GivenEntry where
  list : String
  declared : List (String × Kind)
  given : List (String × Value)

namespace GivenEntry

def name? (entry : GivenEntry) : Option String :=
  (textUnder entry.given "name").filter fun name => !Text.allBlank name

def malformed (entry : GivenEntry) : List String := Feed.malformed entry.declared entry.given

def tag (entry : GivenEntry) : Tag :=
  ⟨textUnder entry.given "name", (repairedOf entry.declared entry.given).1⟩

end GivenEntry

mutual

def Kind.entries : Kind → String → List Value → List GivenEntry
  | .many (.mk _ fields), key, elements => elements.flatMap fun element =>
      ⟨key, fields, element.given⟩ :: entriesIn fields element.given
  | _, _, _ => []

def entriesIn : List (String × Kind) → List (String × Value) → List GivenEntry
  | [], _ => []
  | field :: rest, given => entriesUnder field given ++ entriesIn rest given

def entriesUnder : String × Kind → List (String × Value) → List GivenEntry
  | (key, kind), given => kind.entries key (listUnder given key)

end

def Shape.entries (shape : Shape) (key : String) (element : Value) : List GivenEntry :=
  ⟨key, shape.fields, element.given⟩ :: entriesIn shape.fields element.given

theorem entries_many (shape : Shape) (key : String) (elements : List Value) :
    (Kind.many shape).entries key elements = elements.flatMap (shape.entries key) := by
  obtain ⟨name, fields⟩ := shape
  simp only [Kind.entries]
  rfl

theorem lookup_readAll {β : Type} (g : String × Kind → β) (fields : List (String × Kind))
    (key : String) :
    (fields.map fun field => (field.1, g field)).lookup key =
      (fields.lookup key).map fun kind => g (key, kind) := by
  induction fields with
  | nil => rfl
  | cons field rest ih =>
    rw [List.map_cons, List.lookup_cons, List.lookup_cons]
    cases same : key == field.1 with
    | true =>
      obtain rfl := eq_of_beq same
      rfl
    | false => exact ih

section Read

variable {shape inner : Shape} {key : String}

theorem find?_read (shape : Shape) (given : List (String × Value)) (key : String) :
    (shape.read (.object given)).1.find? key =
      (shape.fields.lookup key).map fun kind => (readField given (key, kind)).2.1 := by
  obtain ⟨name, fields⟩ := shape
  rw [Shape.read_object]
  exact lookup_readAll (fun field => (readField given field).2.1) fields key

theorem text_read (declared : shape.fields.lookup key = some .text)
    (given : List (String × Value)) :
    (shape.read (.object given)).1.text key = textUnder given key := by
  rw [Record.text, find?_read, declared, Option.map_some, textUnder]
  cases found : Value.at? given key with
  | none => rw [readField_absent (key, .text) found, Kind.blank]
  | some value =>
    rw [readField_present (key, .text) found]
    cases value <;> rfl

theorem many_read (declared : shape.fields.lookup key = some (.many inner))
    (given : List (String × Value)) :
    (shape.read (.object given)).1.many key =
      (listUnder given key).map fun element => (inner.readElement element).1 := by
  rw [Record.many, find?_read, declared, Option.map_some, listUnder]
  cases found : Value.at? given key with
  | none =>
    rw [readField_absent (key, .many inner) found, Kind.blank]
    rfl
  | some value =>
    rw [readField_present (key, .many inner) found, read_many]
    rfl

theorem repaired_read (shape : Shape) {given : List (String × Value)}
    (unclaimed : given.lookup repairedKey = none) :
    (shape.read (.object given)).1.repaired = malformed shape.fields given := by
  obtain ⟨name, fields⟩ := shape
  rw [Shape.read_object, repairedOf_unclaimed fields unclaimed]
  rfl

theorem malformed_nil (fields : List (String × Kind)) : malformed fields [] = [] := by
  have none : fields.filter (fun _ => false) = [] := List.filter_false fields
  rw [malformed]
  exact congrArg _ none

theorem Shape.read_empty (shape : Shape) : (shape.read (.object [])).1 = shape.blank := by
  obtain ⟨name, fields⟩ := shape
  have blanks : blankFields fields = fields.map fun field => (field.1, field.2.blank) := by
    induction fields with
    | nil => rfl
    | cons field rest ih =>
      obtain ⟨key, kind⟩ := field
      rw [blankFields, blankField, ih, List.map_cons]
  have absent (field : String × Kind) : (readField [] field).2.1 = field.2.blank := by
    rw [readField_absent field rfl]
  rw [Shape.read_object, repairedOf_unclaimed fields rfl, malformed_nil, Shape.blank, blanks]
  simp only [absent]

theorem one_read (declared : shape.fields.lookup key = some (.one inner))
    (given : List (String × Value)) :
    (shape.read (.object given)).1.one key =
      (inner.readElement ((Value.at? given key).getD .null)).1 := by
  rw [Record.one, find?_read, declared, Option.map_some, Shape.readElement]
  cases found : Value.at? given key with
  | none =>
    rw [readField_absent (key, .one inner) found, Kind.blank]
    exact inner.read_empty.symm
  | some value =>
    rw [readField_present (key, .one inner) found, Kind.read, Option.getD_some]
    by_cases record : value.isRecord
    · rw [if_pos record, if_pos record]
    · rw [if_neg record, if_neg record]
      exact inner.read_empty.symm

theorem readElement_given (shape : Shape) (element : Value) :
    (shape.readElement element).1 = (shape.read (.object element.given)).1 ∨
      (shape.readElement element).1 = .blank ∧ element.given = [] := by
  obtain ⟨name, fields⟩ := shape
  cases element with
  | snapshot =>
    simp only [Shape.readElement, Value.isRecord, if_true, Shape.read]
    exact .inr ⟨rfl, rfl⟩
  | item =>
    simp only [Shape.readElement, Value.isRecord, if_true, Shape.read]
    exact .inr ⟨rfl, rfl⟩
  | _ => exact .inl rfl

theorem many_readElement (declared : shape.fields.lookup key = some (.many inner))
    (element : Value) :
    (shape.readElement element).1.many key =
      (listUnder element.given key).map fun element => (inner.readElement element).1 := by
  rcases readElement_given shape element with read | ⟨blank, nothing⟩
  · rw [read, many_read declared]
  · rw [blank, nothing]
    rfl

theorem repaired_readElement (shape : Shape) (element : Value) :
    (shape.readElement element).1.repaired = (repairedOf shape.fields element.given).1 := by
  rcases readElement_given shape element with read | ⟨blank, nothing⟩
  · obtain ⟨name, fields⟩ := shape
    rw [read, Shape.read_object]
    rfl
  · rw [blank, nothing, repairedOf_unclaimed _ rfl, malformed_nil]
    rfl

theorem tag_readElement (list : String) (declared : shape.fields.lookup "name" = some .text)
    (element : Value) :
    (shape.readElement element).1.tag = GivenEntry.tag ⟨list, shape.fields, element.given⟩ := by
  rw [Record.tag, repaired_readElement shape, GivenEntry.tag]
  rcases readElement_given shape element with read | ⟨blank, nothing⟩
  · rw [read, text_read declared]
  · rw [blank, nothing]
    rfl

end Read

end UsageMetrics.Feed
