/-
  TreeLint/Severity.lean
  ======================
  **How serious a finding is.**  There are three severities, ordered info < warning < error.  A rule has
  a default severity and its settings may override it.
-/
import TreeLint.Data.Scalar

namespace TreeLint

open Data

inductive Severity where
  | info
  | warning
  | error
  deriving DecidableEq, Repr, Inhabited

structure UnknownMember where
  value : Value
  set : String

def UnknownMember.message (e : UnknownMember) : String :=
  e.value.render ++ " is not a valid " ++ e.set

namespace Severity

/-- All severities, the least first. -/
def all : List Severity := [.info, .warning, .error]

def rank : Severity → Nat
  | .info => 0
  | .warning => 1
  | .error => 2

instance : LE Severity := ⟨fun s t => s.rank ≤ t.rank⟩

instance : LT Severity := ⟨fun s t => s.rank < t.rank⟩

instance (s t : Severity) : Decidable (s ≤ t) := inferInstanceAs (Decidable (s.rank ≤ t.rank))

instance (s t : Severity) : Decidable (s < t) := inferInstanceAs (Decidable (s.rank < t.rank))

def name : Severity → String
  | .info => "info"
  | .warning => "warning"
  | .error => "error"

def label : Severity → String
  | .info => "INFO"
  | .warning => "WARNING"
  | .error => "ERROR"

def ofName? (s : String) : Option Severity := all.find? (·.name == s)

def ofValue (v : Value) : Except UnknownMember Severity :=
  match v with
  | .text s =>
    match ofName? s with
    | some severity => .ok severity
    | none => .error ⟨v, "Severity"⟩
  | _ => .error ⟨v, "Severity"⟩

def read : Value → Reading Severity
  | .text s =>
    match ofName? s with
    | some severity => .value severity
    | none => Reading.fault .severityExpected
  | _ => Reading.fault .severityExpected

def dump (s : Severity) : Value := .text s.name

def dumpOption : Option Severity → Value
  | none => .null
  | some s => s.dump

/-- The severity in force: the override where there is one, the default otherwise. -/
def resolve (default : Severity) (override : Option Severity) : Severity := override.getD default

def ascending (ss : List Severity) : List Severity := ss.mergeSort fun s t => decide (s ≤ t)

def descending (ss : List Severity) : List Severity := ss.mergeSort fun s t => decide (t ≤ s)

/-- Those that are at least as serious as a given one, in their order. -/
def atLeast (least : Severity) (ss : List Severity) : List Severity :=
  ss.filter fun s => decide (least ≤ s)

end Severity

end TreeLint
