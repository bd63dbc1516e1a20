/-
  TreeLint/Data/Reading.lean
  ==========================
  **Reading typed records out of documents**, by the rules of pydantic and in its words.  A reading gives
  a value or a list of problems.  Readings of several fields are combined so that all their problems are
  reported, in the order of the fields; each problem carries the path of field names, keys and list
  positions that leads to it.

  A type that can be read from a document and written back is an instance of `Schema`.  The written form
  has every field, so reading it again meets no missing field.
-/
import TreeLint.Data.Value

namespace TreeLint.Data

/-! ### Problems -/

/-- One step into a document: a field or key of an object, or a position in a list. -/
inductive Step where
  | field (name : String)
  | index (position : Nat)
  deriving DecidableEq, Repr

inductive Fault where
  | recordExpected (schema : String)
  | missing
  | textExpected
  | textEmpty
  | integerExpected
  | integerUnreadable
  | integerFraction
  | integerInfinite
  | integerTooLarge
  | integerBelowOne
  | flagExpected
  | flagUnreadable
  | severityExpected
  | entriesExpected
  | sequenceExpected
  | frozen
  deriving DecidableEq, Repr

namespace Fault

def code : Fault → String
  | .recordExpected _ => "model_type"
  | .missing => "missing"
  | .textExpected => "string_type"
  | .textEmpty => "string_too_short"
  | .integerExpected => "int_type"
  | .integerUnreadable => "int_parsing"
  | .integerFraction => "int_from_float"
  | .integerInfinite => "finite_number"
  | .integerTooLarge => "int_parsing_size"
  | .integerBelowOne => "greater_than_equal"
  | .flagExpected => "bool_type"
  | .flagUnreadable => "bool_parsing"
  | .severityExpected => "enum"
  | .entriesExpected => "dict_type"
  | .sequenceExpected => "tuple_type"
  | .frozen => "frozen_instance"

def message : Fault → String
  | .recordExpected schema => "Input should be a valid dictionary or instance of " ++ schema
  | .missing => "Field required"
  | .textExpected => "Input should be a valid string"
  | .textEmpty => "String should have at least 1 character"
  | .integerExpected => "Input should be a valid integer"
  | .integerUnreadable =>
    "Input should be a valid integer, unable to parse string as an integer"
  | .integerFraction =>
    "Input should be a valid integer, got a number with a fractional part"
  | .integerInfinite => "Input should be a finite number"
  | .integerTooLarge =>
    "Unable to parse input string as an integer, exceeded maximum size"
  | .integerBelowOne => "Input should be greater than or equal to 1"
  | .flagExpected => "Input should be a valid boolean"
  | .flagUnreadable => "Input should be a valid boolean, unable to interpret input"
  | .severityExpected => "Input should be 'info', 'warning' or 'error'"
  | .entriesExpected => "Input should be a valid dictionary"
  | .sequenceExpected => "Input should be a valid tuple"
  | .frozen => "Instance is frozen"

end Fault

structure Problem where
  path : List Step
  fault : Fault
  deriving DecidableEq, Repr

/-- A document that is not a record of the named schema, with everything that is wrong with it. -/
structure Invalid where
  schema : String
  problems : List Problem
  deriving DecidableEq, Repr

/-! ### Readings -/

/-- A value, or the problems that stand in the way of one. -/
inductive Reading (α : Type) where
  | value (a : α)
  | problems (ps : List Problem)

namespace Reading

variable {α β : Type}

def fault (f : Fault) : Reading α := .problems [⟨[], f⟩]

def map (f : α → β) : Reading α → Reading β
  | .value a => .value (f a)
  | .problems ps => .problems ps

/-- Combines two readings; the problems of both are kept, the first one's before the second one's. -/
def both (f : Reading (α → β)) (x : Reading α) : Reading β :=
  match f, x with
  | .value g, .value a => .value (g a)
  | .value _, .problems ps => .problems ps
  | .problems ps, .value _ => .problems ps
  | .problems ps, .problems qs => .problems (ps ++ qs)

instance : Applicative Reading where
  pure := .value
  map := map
  seq f x := both f (x ())

/-- Puts a step in front of the path of every problem. -/
def under (step : Step) : Reading α → Reading α
  | .value a => .value a
  | .problems ps => .problems (ps.map fun p => { p with path := step :: p.path })

theorem map_eq_value_iff {f : α → β} {x : Reading α} {b : β} :
    f <$> x = .value b ↔ ∃ a, x = .value a ∧ f a = b := by
  cases x with
  | value a => simp [Functor.map, map]
  | problems ps => simp [Functor.map, map]

theorem seq_eq_value_iff {f : Reading (α → β)} {x : Reading α} {b : β} :
    f <*> x = .value b ↔ ∃ g a, f = .value g ∧ x = .value a ∧ g a = b := by
  cases f <;> cases x <;> simp [Seq.seq, both]

theorem under_eq_value_iff {step : Step} {x : Reading α} {a : α} :
    x.under step = .value a ↔ x = .value a := by
  cases x with
  | value b => rfl
  | problems ps => simp [under]

end Reading

/-! ### Fields, lists and entries -/

section Readers

variable {α : Type}

def required (read : Value → Reading α) (name : String) (fields : Entries Value) : Reading α :=
  (match Entries.get? name fields with
    | some v => read v
    | none => Reading.fault .missing).under (.field name)

/-- A field that may be left out, and then has a default. -/
def optional (read : Value → Reading α) (default : α) (name : String) (fields : Entries Value) :
    Reading α :=
  match Entries.get? name fields with
  | some v => (read v).under (.field name)
  | none => .value default

def nullable (read : Value → Reading α) : Value → Reading (Option α)
  | .null => .value none
  | v => (read v).map some

/-- Reads the items of a list, the first of them at the given position. -/
def readItems (read : Value → Reading α) : Nat → List Value → Reading (List α)
  | _, [] => .value []
  | i, v :: vs =>
    (((read v).under (.index i)).map List.cons).both (readItems read (i + 1) vs)

/-- Reads the values of keyed entries; the keys stay. -/
def readEntries (read : Value → Reading α) : Entries Value → Reading (Entries α)
  | [] => .value []
  | (key, v) :: rest =>
    (((read v).under (.field key)).map fun a entries => (key, a) :: entries).both
      (readEntries read rest)

def sequenceOf (read : Value → Reading α) : Value → Reading (List α)
  | .list items => readItems read 0 items
  | _ => Reading.fault .sequenceExpected

def entriesOf (read : Value → Reading α) : Value → Reading (Entries α)
  | .object entries => readEntries read entries
  | _ => Reading.fault .entriesExpected

end Readers

/-! ### Schemas -/

/-- What a field holds: a value as it is written, a record, a sequence of records, or records under
keys. -/
inductive Holding where
  | plain
  | record
  | sequence
  | keyed
  deriving DecidableEq, Repr

/-- A type of records: its name, how its fields are read, its fields written out, what they hold, and the
values of any shape that a record holds. -/
class Schema (α : Type) where
  name : String
  read : Entries Value → Reading α
  fields : α → Entries Value
  holding : String → Holding := fun _ => .plain
  freeValues : α → List Value := fun _ => []

inductive Unwritable where
  | tooDeep
  deriving DecidableEq, Repr

def Unwritable.message : Unwritable → String
  | .tooDeep => "Maximum serialization depth exceeded"

/-- The greatest depth at which a value of any shape is written out: the guard of pydantic's serializer for
JSON against values that hold themselves counts 255 steps inwards. -/
def writableDepth : Nat := 255

namespace Schema

variable {α : Type}

/-- Reads a record where one stands inside another document. -/
def record (α : Type) [Schema α] : Value → Reading α
  | .object fields => read fields
  | _ => Reading.fault (.recordExpected (name α))

def validate (α : Type) [Schema α] (v : Value) : Except Invalid α :=
  match record α v with
  | .value a => .ok a
  | .problems ps => .error ⟨name α, ps⟩

def dump [Schema α] (a : α) : Value := .object (fields a)

/-- Writes an optional record, absent as null. -/
def dumpOption [Schema α] : Option α → Value
  | none => .null
  | some a => dump a

/-- Writes a record as a document, unless a value of any shape in it is nested too deeply. -/
def write [Schema α] (a : α) : Except Unwritable Value :=
  if (freeValues a).any fun v => writableDepth < v.depth then .error .tooDeep else .ok (dump a)

end Schema

end TreeLint.Data
