/-
  TreeLint/Data/Value.lean
  ========================
  **Documents as values.**  Diagnostics and configurations come in as plain documents: nested lists and
  objects over texts, numbers, truth values and null.  A whole number and a number with a point of the
  same worth are different values, but `same` does not tell them apart, nor a truth value from the
  number 0 or 1, nor two objects whose entries stand in another order.
-/
import TreeLint.Data.Entries
import TreeLint.Data.Number
import TreeLint.Text.Quoted

namespace TreeLint.Data

inductive Value where
  | null
  | bool (b : Bool)
  | int (n : Int)
  | real (x : Number)
  | text (s : String)
  | list (items : List Value)
  | object (entries : List (String × Value))
  deriving Repr, Inhabited

namespace Value

/-- The worth of a number; a truth value is worth 0 or 1. -/
def number? : Value → Option Number
  | .bool b => some (Number.ofInt (if b then 1 else 0))
  | .int n => some (Number.ofInt n)
  | .real x => some x
  | _ => none

def kind : Value → String
  | .null => "NoneType"
  | .bool _ => "bool"
  | .int _ => "int"
  | .real _ => "float"
  | .text _ => "str"
  | .list _ => "list"
  | .object _ => "dict"

/-- Whether there is nothing to a value: null, no, nought, or nothing in it. -/
def isVoid : Value → Bool
  | .null => true
  | .bool b => !b
  | .int n => n == 0
  | .real x => x.equals (Number.ofInt 0)
  | .text s => s.isEmpty
  | .list items => items.isEmpty
  | .object entries => entries.isEmpty

/-! ### Depth -/

mutual

/-- How deeply a value is nested; a value without parts has depth 1. -/
def depth : Value → Nat
  | .list items => depthItems items + 1
  | .object entries => depthEntries entries + 1
  | _ => 1

def depthItems : List Value → Nat
  | [] => 0
  | v :: vs => max (depth v) (depthItems vs)

def depthEntries : List (String × Value) → Nat
  | [] => 0
  | (_, v) :: rest => max (depth v) (depthEntries rest)

end

/-! ### Equality of worth -/

mutual

/-- Equality up to the spelling of numbers and the order of object entries. -/
def same : Value → Value → Bool
  | .null, .null => true
  | .text a, .text b => a == b
  | .list as, .list bs => sameItems as bs
  | .object as, .object bs => as.length == bs.length && sameEntries as bs
  | a, b =>
    match a.number?, b.number? with
    | some x, some y => x.equals y
    | _, _ => false

def sameItems : List Value → List Value → Bool
  | [], [] => true
  | a :: as, b :: bs => same a b && sameItems as bs
  | _, _ => false

/-- Each entry of the first has an equal one under its key in the second. -/
def sameEntries : List (String × Value) → List (String × Value) → Bool
  | [], _ => true
  | (key, a) :: as, bs =>
    match Entries.get? key bs with
    | some b => same a b && sameEntries as bs
    | none => false

end

/-! ### Written form in messages -/

mutual

def render : Value → String
  | .null => "None"
  | .bool b => if b then "True" else "False"
  | .int n => toString n
  | .real x => x.render
  | .text s => Text.quoted s
  | .list items => "[" ++ ", ".intercalate (renderItems items) ++ "]"
  | .object entries => "\x7b" ++ ", ".intercalate (renderEntries entries) ++ "\x7d"

def renderItems : List Value → List String
  | [] => []
  | v :: vs => render v :: renderItems vs

def renderEntries : List (String × Value) → List String
  | [] => []
  | (key, v) :: rest => (Text.quoted key ++ ": " ++ render v) :: renderEntries rest

end

end Value

end TreeLint.Data
