/-
  TreeLint/Literal/Worth.lean
  ===========================
  **What literals are worth.**  A literal is a constant, a signed number, the sum or difference of a real
  and an imaginary number, or a tuple, set or dictionary of literals; the empty set is written as a call.
  Values of sets and keys of dictionaries have to be hashable, which sets, dictionaries, and tuples that
  hold one are not.

  Nothing else of a value is kept than whether it is hashable.  Values are worked out from left to right,
  and the first fault counts.
-/
import TreeLint.Data.Number
import TreeLint.Literal.Expr

namespace TreeLint.Literal

/-- What is known of a value. -/
inductive Worth where
  | plain
  | set
  | dict
  | tuple (items : List Worth)
  deriving Repr, Inhabited

mutual

/-- The kind of the first part of a value that is not hashable. -/
def Worth.unhashable? : Worth → Option String
  | .plain => none
  | .set => some "set"
  | .dict => some "dict"
  | .tuple items => firstUnhashable? items

def firstUnhashable? : List Worth → Option String
  | [] => none
  | item :: rest =>
    match item.unhashable? with
    | some kind => some kind
    | none => firstUnhashable? rest

end

def Worth.hashable (w : Worth) : Except WorthFault Unit :=
  match w.unhashable? with
  | some kind => .error (.unhashable kind)
  | none => .ok ()

def Expr.number? : Expr → Option Numeral
  | .number value => some value
  | _ => none

def Expr.signedNumber? : Expr → Option Numeral
  | .signed operand => operand.number?
  | e => e.number?

/-- Whether a whole number is too large for a real one. -/
def isTooLarge (n : Nat) : Bool :=
  match Data.Number.nearest false n 1 with
  | .infinite _ => true
  | _ => false

def worthOfSum (left right : Expr) : Except WorthFault Worth :=
  match left.signedNumber?, right.number? with
  | some (.whole n), some .imaginary => if isTooLarge n then .error .tooLarge else .ok .plain
  | some .real, some .imaginary => .ok .plain
  | _, _ => .error .foreign

mutual

def Expr.worth : Expr → Except WorthFault Worth
  | .word _ | .ellipsis | .number _ | .quoted | .bytes => .ok .plain
  | .signed operand => if operand.number?.isSome then .ok .plain else .error .foreign
  | .sum left right => worthOfSum left right
  | .tuple items => (worths items).map .tuple
  | .set items => (worthOfItems items).map fun _ => .set
  | .dict pairs => (worthOfItems pairs).map fun _ => .dict
  | .pair key value => do
    let k ← key.worth
    let _ ← value.worth
    pure k
  | .unpacked _ => .error .unpacked
  | .call (.name text) [] => if Text.plainName text = "set" then .ok .set else .error .foreign
  | _ => .error .foreign

def worths : List Expr → Except WorthFault (List Worth)
  | [] => .ok []
  | e :: rest => do
    let w ← e.worth
    let ws ← worths rest
    pure (w :: ws)

/-- The items of a set or the pairs of a dictionary, whose keys have to be hashable. -/
def worthOfItems : List Expr → Except WorthFault Unit
  | [] => .ok ()
  | e :: rest => do
    let w ← e.worth
    w.hashable
    worthOfItems rest

end

def mostDepth : Nat := 2940

def Expr.worthFault? (e : Expr) : Option WorthFault :=
  if mostDepth < e.depth then some .tooDeep
  else match e.worth with
    | .error fault => some fault
    | .ok _ => none

end TreeLint.Literal
