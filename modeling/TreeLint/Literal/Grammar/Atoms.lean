/-
  TreeLint/Literal/Grammar/Atoms.lean
  ===================================
  **Atoms.**  The smallest operands are names, constants, numbers and quoted texts, and whatever stands in
  brackets: groups, tuples, sets, dictionaries, and comprehensions, which go through other values.  Square
  brackets cannot be part of a tag, so nothing is made with them.
-/
import TreeLint.Literal.Grammar.Operators

namespace TreeLint.Literal.Grammar

open TreeLint.Literal.Parser

variable (call : Phrase → Parser Expr)

/-! ### Operands -/

/-- The arguments of a call that has been read as one. -/
def argumentsOf : Expr → List Expr
  | .call _ arguments => arguments
  | _ => []

def memberOf (e : Expr) : Parser Expr := do
  sign "."
  let _ ← name
  pure (.compound .member [e])

/-- A call whose only argument is a generator, which needs no brackets of its own. -/
def generatorCall (e : Expr) : Parser Expr := do
  let generator ← call .generator
  pure (.call e [generator])

def plainCall (e : Expr) : Parser Expr := do
  sign "("
  let arguments ← opt (call .arguments)
  sign ")"
  pure (.call e ((arguments.map argumentsOf).getD []))

/-- An operand, with attributes and calls behind it. -/
def primary : Parser Expr :=
  chain (call .atom) fun e => choice [memberOf e, generatorCall call e, plainCall call e]

def atom : Parser Expr := choice [
  name,
  word .true,
  word .false,
  word .none,
  ahead quotedText *> call .texts,
  number,
  ahead (sign "(") *> group [call .tuple, call .group, call .generator],
  ahead (sign "\x7b") *> group [call .dict, call .set, call .dictComprehension, call .setComprehension],
  sign "..." *> pure .ellipsis]

/-! ### Brackets -/

def bracketed : Parser Expr := choice [
  do sign "("
     let e ← group [call .yielded, call .named]
     sign ")"
     pure e,
  whenWrong (call .badGroup)]

def itemsOf : Expr → List Expr
  | .tuple items => items
  | _ => []

def tuple : Parser Expr := do
  sign "("
  let items ← opt (nested do
    let first ← call .namedItem
    sign ","
    let others ← opt (call .namedItems)
    pure (first :: (others.map itemsOf).getD []))
  sign ")"
  pure (.tuple (items.getD []))

def set : Parser Expr := do
  sign "\x7b"
  let items ← call .namedItems
  sign "\x7d"
  pure (.set (itemsOf items))

/-- A dictionary.  Its pairs are looked at for mistakes as soon as they are none. -/
def dict : Parser Expr := choice [
  do sign "\x7b"
     let pairs ← opt (call .pairs)
     sign "\x7d"
     pure (.dict ((pairs.map itemsOf).getD [])),
  do sign "\x7b"
     let e ← call .badPairs
     sign "\x7d"
     pure e]

def pairs : Parser Expr := do
  let items ← separated (call .pairOrUnpacked)
  let _ ← opt (sign ",")
  pure (.tuple items)

def pairOrUnpacked : Parser Expr := choice [
  do sign "**"
     let e ← call .bitOr
     pure (.unpacked e),
  call .pair]

def pair : Parser Expr := do
  let key ← call .expression
  sign ":"
  let value ← call .expression
  pure (.pair key value)

/-! ### Comprehensions -/

def clauses : Parser Expr := .tuple <$> many1 (call .clause)

/-- A target, what it goes through, and the conditions. -/
def loop : Parser Expr := do
  sign "for"
  let target ← call .targets
  sign "in"
  committed do
    let values ← call .disjunction
    let conditions ← many (nested (sign "if" *> call .disjunction))
    pure (.operation (target :: values :: conditions))

def clause : Parser Expr := choice [
  sign "async" *> loop call,
  loop call,
  whenWrong (call .badTarget)]

def setComprehension : Parser Expr := choice [
  do sign "\x7b"
     let e ← call .named
     let clauses ← call .clauses
     sign "\x7d"
     pure (.compound .setComprehension [e, clauses]),
  whenWrong (call .badComprehension)]

/-- An expression that may be given a name but has no equals sign of that kind behind it. -/
def element : Parser Expr := group [call .assignment, call .expression <* notAhead (sign ":=")]

def generator : Parser Expr := choice [
  do sign "("
     let e ← element call
     let clauses ← call .clauses
     sign ")"
     pure (.compound .generator [e, clauses]),
  whenWrong (call .badComprehension)]

def dictComprehension : Parser Expr := choice [
  do sign "\x7b"
     let e ← call .pair
     let clauses ← call .clauses
     sign "\x7d"
     pure (.compound .dictComprehension [e, clauses]),
  whenWrong (call .badDictComprehension)]

end TreeLint.Literal.Grammar
