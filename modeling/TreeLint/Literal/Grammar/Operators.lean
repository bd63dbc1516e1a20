/-
  TreeLint/Literal/Grammar/Operators.lean
  =======================================
  **Operators.**  Expressions are joined by operators.  From the loosest to the tightest, these are the
  condition, `or`, `and`, `not`, comparisons, the operators on bits, sums, products, signs, and powers.
  Every phrase names the phrases that it is made of, and is given a parser for each of them.
-/
import TreeLint.Literal.Parser

namespace TreeLint.Literal.Grammar

open TreeLint.Literal.Parser

variable (call : Phrase → Parser Expr)

/-! ### Expressions -/

/-- Items with commas between them, of which a single one needs a comma to be a tuple. -/
def commaItems (item : Phrase) : Parser Expr := choice [
  do let first ← call item
     let others ← many1 (nested (sign "," *> call item))
     let _ ← opt (sign ",")
     pure (.tuple (first :: others)),
  do let first ← call item
     sign ","
     pure (.tuple [first]),
  call item]

def conditional : Parser Expr := do
  let yes ← call .disjunction
  sign "if"
  let condition ← call .disjunction
  sign "else"
  let no ← call .expression
  pure (.compound .conditional [condition, yes, no])

def expression : Parser Expr := choice [
  whenWrong (call .badExpression),
  whenWrong (call .oldCommand),
  conditional call,
  call .disjunction,
  call .function]

/-- An expression in which mistakes are not looked for. -/
def plainExpression : Parser Expr :=
  trusting (choice [conditional call, call .disjunction, call .function])

def yielded : Parser Expr := choice [
  do sign "yield"
     sign "from"
     let e ← call .expression
     pure (.compound .yielded [e]),
  do sign "yield"
     let e ← opt (call .starExpressions)
     pure (.compound .yielded e.toList)]

def starred : Parser Expr := do
  sign "*"
  let e ← call .bitOr
  pure (.starred e)

def starExpression : Parser Expr := choice [starred call, call .expression]

def namedItems : Parser Expr := do
  let items ← separated (call .namedItem)
  let _ ← opt (sign ",")
  pure (.tuple items)

def namedItem : Parser Expr := choice [starred call, call .named]

def assignment : Parser Expr := do
  let target ← name
  sign ":="
  let value ← committed (call .expression)
  pure (.compound .named [target, value])

def named : Parser Expr := choice [
  call .assignment,
  whenWrong (call .badNamed),
  call .expression <* notAhead (sign ":=")]

/-! ### Logic -/

/-- Operands joined by a word, at least two, or a single one. -/
def joined (word : String) (operand : Phrase) : Parser Expr := choice [
  do let first ← call operand
     let others ← many1 (nested (sign word *> call operand))
     pure (.operation (first :: others)),
  call operand]

def inversion : Parser Expr := choice [
  do sign "not"
     let e ← call .inversion
     pure (.operation [e]),
  call .comparison]

/-- The signs of comparisons, and whether they are for membership. -/
def comparisonSigns : List (Parser Bool) := [
  sign "==" *> pure false,
  group [sign "!=" *> pure false],
  sign "<=" *> pure false,
  sign "<" *> pure false,
  sign ">=" *> pure false,
  sign ">" *> pure false,
  sign "not" *> sign "in" *> pure false,
  sign "in" *> pure true,
  sign "is" *> sign "not" *> pure false,
  sign "is" *> pure false]

def compared : Parser (Bool × Expr) :=
  group (comparisonSigns.map fun comparisonSign => nested do
    let membership ← comparisonSign
    let e ← call .bitOr
    pure (membership, e))

def comparison : Parser Expr := choice [
  do let left ← call .bitOr
     let others ← many1 (compared call)
     pure (.comparison (others.head?.any (·.1)) left (others.map (·.2))),
  call .bitOr]

/-! ### Arithmetic -/

/-- Operands joined by one of some signs, from left to right. -/
def leftJoined (signs : List String) (operand : Phrase) (join : Expr → Expr → Expr) : Parser Expr :=
  chain (call operand) fun left => choice (signs.map fun s => do
    sign s
    let right ← call operand
    pure (join left right))

/-- Two operands of which nothing else is known. -/
def operands (left right : Expr) : Expr := .operation [left, right]

def factor : Parser Expr := choice [
  sign "+" *> Expr.signed <$> call .factor,
  sign "-" *> Expr.signed <$> call .factor,
  do sign "~"
     let e ← call .factor
     pure (.operation [e]),
  call .power]

def power : Parser Expr := choice [
  do let base ← call .awaited
     sign "**"
     let exponent ← call .factor
     pure (operands base exponent),
  call .awaited]

def awaited : Parser Expr := choice [
  do sign "await"
     let e ← call .primary
     pure (.compound .awaited [e]),
  call .primary]

end TreeLint.Literal.Grammar
