/-
  TreeLint/Severity/Comparison.lean
  =================================
  **Comparing severities with other values.**  Two severities compare by rank.  A severity is also a
  text, its name: against a plain text it compares as that name does, in code point order, so
  `error < warning` by name although error is the greater severity.  Against anything else there is no
  order.  Plain values among themselves compare as numbers, texts or lists.

  Equality knows no failure: a severity equals another of the same name and the text that is its name.
-/
import TreeLint.Severity

namespace TreeLint.Severity

open Data

/-- One side of a comparison: a severity, or any other value. -/
inductive Operand where
  | severity (s : Severity)
  | plain (v : Value)

inductive Relation where
  | less
  | atMost
  | greater
  | atLeast
  deriving DecidableEq, Repr

structure Unordered where
  relation : Relation
  left : String
  right : String
  deriving DecidableEq, Repr

namespace Relation

def sign : Relation → String
  | .less => "<"
  | .atMost => "<="
  | .greater => ">"
  | .atLeast => ">="

/-- A relation between two values of which it is known whether the first is smaller and whether the
second is. -/
def decideBy (smaller larger : Bool) : Relation → Bool
  | .less => smaller
  | .atMost => !larger
  | .greater => larger
  | .atLeast => !smaller

end Relation

def Unordered.message (e : Unordered) : String :=
  "'" ++ e.relation.sign ++ "' not supported between instances of '" ++ e.left ++ "' and '"
    ++ e.right ++ "'"

/-- Texts in code point order. -/
def relateTexts (relation : Relation) (a b : String) : Bool :=
  relation.decideBy (decide (a < b)) (decide (b < a))

/-- Numbers by worth, where no relation holds of an undefined one; `none` where a side is not a number. -/
def relateNumbers? (relation : Relation) (a b : Value) : Option Bool :=
  match a.number?, b.number? with
  | some x, some y =>
    some (match x.order? y with
      | some order => relation.decideBy (order == .lt) (order == .gt)
      | none => false)
  | _, _ => none

mutual

/-- Plain values: texts, numbers and lists have an order among themselves. -/
def relateValues (relation : Relation) : Value → Value → Except Unordered Bool
  | .text a, .text b => .ok (relateTexts relation a b)
  | .list as, .list bs => relateItems relation as bs
  | a, b =>
    match relateNumbers? relation a b with
    | some result => .ok result
    | none => .error ⟨relation, a.kind, b.kind⟩

/-- Lists by their first unequal items, or by length where one continues the other. -/
def relateItems (relation : Relation) : List Value → List Value → Except Unordered Bool
  | [], bs => .ok (relation.decideBy (!bs.isEmpty) false)
  | _ :: _, [] => .ok (relation.decideBy false true)
  | a :: as, b :: bs =>
    if a.same b then relateItems relation as bs else relateValues relation a b

end

namespace Operand

/-- The value that an operand is when it is not looked at as a severity. -/
def value : Operand → Value
  | .severity s => s.dump
  | .plain v => v

def kind : Operand → String
  | .severity _ => "Severity"
  | .plain v => v.kind

def relate (relation : Relation) : Operand → Operand → Except Unordered Bool
  | .severity s, .severity t =>
    .ok (relation.decideBy (decide (s < t)) (decide (t < s)))
  | .plain a, .plain b => relateValues relation a b
  | a, b =>
    match a.value, b.value with
    | .text s, .text t => .ok (relateTexts relation s t)
    | _, _ => .error ⟨relation, a.kind, b.kind⟩

def equals (a b : Operand) : Bool := a.value.same b.value

end Operand

end TreeLint.Severity
