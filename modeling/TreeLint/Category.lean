/-
  TreeLint/Category.lean
  ======================
  **What a rule is about.**  Every rule belongs to one of six categories.  A category's name is also the
  first part of the identifiers of its rules.
-/
import TreeLint.Severity

namespace TreeLint

open Data

inductive Category where
  | concurrency
  | nio
  | postgres
  | hummingbird
  | libraryDesign
  | general
  deriving DecidableEq, Repr, Inhabited

namespace Category

def all : List Category := [.concurrency, .nio, .postgres, .hummingbird, .libraryDesign, .general]

def name : Category → String
  | .concurrency => "concurrency"
  | .nio => "nio"
  | .postgres => "postgres"
  | .hummingbird => "hummingbird"
  | .libraryDesign => "library-design"
  | .general => "general"

/-- The name as a constant: capital letters, with an underscore for the hyphen. -/
def label : Category → String
  | .concurrency => "CONCURRENCY"
  | .nio => "NIO"
  | .postgres => "POSTGRES"
  | .hummingbird => "HUMMINGBIRD"
  | .libraryDesign => "LIBRARY_DESIGN"
  | .general => "GENERAL"

def ofName? (s : String) : Option Category := all.find? (·.name == s)

def ofValue (v : Value) : Except UnknownMember Category :=
  match v with
  | .text s =>
    match ofName? s with
    | some category => .ok category
    | none => .error ⟨v, "RuleCategory"⟩
  | _ => .error ⟨v, "RuleCategory"⟩

end Category

end TreeLint
