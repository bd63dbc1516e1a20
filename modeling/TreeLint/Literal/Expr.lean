/-
  TreeLint/Literal/Expr.lean
  ==========================
  **Expressions.**  Literals are part of a wider language of expressions, and an expression that is no
  literal is still read to its end.  What is kept of it is what a message may name, what tells whether
  values can be assigned to it, and what it is worth if it is a literal.
-/
import TreeLint.Literal.Numeral
import TreeLint.Text.Letterform

namespace TreeLint.Literal

inductive Word where
  | none
  | true
  | false
  deriving DecidableEq, Repr

def Word.text : Word → String
  | .none => "None"
  | .true => "True"
  | .false => "False"

/-- Expressions of which only the parts are kept. -/
inductive Compound where
  | member
  | conditional
  | named
  | function
  | generator
  | setComprehension
  | dictComprehension
  | yielded
  | awaited
  deriving DecidableEq, Repr

/-- Expressions and, among their parts, starred ones, pairs and arguments.  In a dictionary or a call,
`unpacked` is what stands after two stars and `keyword` the value of a named argument.  A comparison tells
whether its first sign is the word for membership. -/
inductive Expr where
  | name (text : String)
  | word (word : Word)
  | ellipsis
  | number (value : Numeral)
  | quoted
  | bytes
  | formatted
  | tuple (items : List Expr)
  | set (items : List Expr)
  | dict (pairs : List Expr)
  | pair (key value : Expr)
  | unpacked (value : Expr)
  | keyword (value : Expr)
  | starred (value : Expr)
  | signed (operand : Expr)
  | sum (left right : Expr)
  | operation (operands : List Expr)
  | comparison (membership : Bool) (left : Expr) (others : List Expr)
  | call (function : Expr) (arguments : List Expr)
  | compound (kind : Compound) (parts : List Expr)
  deriving Repr, Inhabited

def Compound.kind : Compound → String
  | .member => "attribute"
  | .conditional => "conditional expression"
  | .named => "named expression"
  | .function => "lambda"
  | .generator => "generator expression"
  | .setComprehension => "set comprehension"
  | .dictComprehension => "dict comprehension"
  | .yielded => "yield expression"
  | .awaited => "await expression"

namespace Expr

def kind : Expr → String
  | .name _ => "name"
  | .word w => w.text
  | .ellipsis => "ellipsis"
  | .number _ | .quoted | .bytes => "literal"
  | .formatted => "f-string expression"
  | .tuple _ => "tuple"
  | .set _ => "set display"
  | .dict _ => "dict literal"
  | .pair _ _ | .unpacked _ | .keyword _ | .starred _ => "starred"
  | .signed _ | .sum _ _ | .operation _ => "expression"
  | .comparison _ _ _ => "comparison"
  | .call _ _ => "function call"
  | .compound c _ => c.kind

def commandNames : List String := ["print", "exec"]

/-- The command of old that an expression names. -/
def command? : Expr → Option String
  | .name text =>
    let name := Text.plainName text
    if commandNames.contains name then some name else none
  | _ => none

/-! ### Targets -/

mutual

/-- The first part of an expression to which no value of a loop can be assigned.  Where a loop has not
been told apart from a test of membership, the left side of the test is the target. -/
def badTarget? : Expr → Option Expr
  | .name _ => none
  | .compound .member _ => none
  | .tuple items => firstBad? items
  | .starred value => value.badTarget?
  | .comparison membership left _ => if membership then left.badTarget? else none
  | e => some e

/-- The first part of some expressions to which no value of a loop can be assigned. -/
def firstBad? : List Expr → Option Expr
  | [] => none
  | e :: rest =>
    match e.badTarget? with
    | some bad => some bad
    | none => firstBad? rest

end

/-! ### Depth -/

mutual

def depth : Expr → Nat
  | .tuple items | .set items | .dict items | .operation items | .compound _ items => depths items + 1
  | .pair key value => max key.depth value.depth
  | .unpacked value | .keyword value => value.depth
  | .starred value | .signed value => value.depth + 1
  | .sum left right => max left.depth right.depth + 1
  | .comparison _ left others => max left.depth (depths others) + 1
  | .call function arguments => max function.depth (depths arguments) + 1
  | .name _ | .word _ | .ellipsis | .number _ | .quoted | .bytes | .formatted => 1

def depths : List Expr → Nat
  | [] => 0
  | e :: rest => max e.depth (depths rest)

end

end Expr

end TreeLint.Literal
