/-
  TreeLint/Literal/Grammar/Mistakes.lean
  ======================================
  **Mistakes.**  These phrases are not expressions but look like some that were meant.  Whoever
  finds one of them knows what is wrong, and stops.
-/
import TreeLint.Literal.Grammar.Calls

namespace TreeLint.Literal.Grammar

open TreeLint.Literal.Parser

variable (call : Phrase → Parser Expr)

/-! ### Expressions -/

/-- Two expressions side by side in brackets, or a condition with one outcome only. -/
def badExpression : Parser Expr := choice [
  do notAhead (group [name *> quotedText *> pure (), softWord])
     let first ← call .disjunction
     let _ ← call .plainExpression
     let level ← bracketLevel
     if first.command?.isSome || level == 0 then refuse else mistake .missingComma,
  do let _ ← call .disjunction
     sign "if"
     let _ ← call .disjunction
     notAhead (group [sign "else", sign ":"])
     mistake .missingElse]

def oldCommand : Parser Expr := do
  let e ← name
  notAhead (sign "(")
  let _ ← call .starExpressions
  match e.command? with
  | some command => mistake (.missingCall command)
  | none => refuse

/-- A value that is given to what is no name, or by a single equals sign. -/
def badNamed : Parser Expr := choice [
  do let e ← call .expression
     sign ":="
     let _ ← call .expression
     mistake (.assignsIn e.kind),
  do let _ ← name
     sign "="
     let _ ← call .bitOr
     notAhead (group [sign "=", sign ":="])
     mistake .singleEquals,
  do notAhead (group [call .tuple, call .generator, word .true, word .none, word .false])
     let e ← call .bitOr
     sign "="
     let _ ← call .bitOr
     notAhead (group [sign "=", sign ":="])
     mistake (.assignsHere e.kind)]

/-! ### Calls -/

def isPositional : Expr → Bool
  | .keyword _ | .unpacked _ => false
  | _ => true

def isUnpacked : Expr → Bool
  | .unpacked _ => true
  | _ => false

/-- Arguments in the wrong order, or a generator among them without brackets. -/
def badArguments : Parser Expr := choice [
  do let _ ← call .argumentList
     sign ","
     sign "*"
     mistake .iterableAfterUnpacking,
  do let _ ← call .expression
     let _ ← call .clauses
     sign ","
     let _ ← opt (group [call .argumentList, call .expression *> call .clauses])
     mistake .bareGenerator,
  do let _ ← name
     sign "="
     let _ ← call .expression
     let _ ← call .clauses
     mistake .singleEquals,
  do let e ← call .argumentList
     let _ ← call .clauses
     if ((argumentsOf e).filter isPositional).length ≤ 1 then refuse else mistake .bareGenerator,
  do let _ ← call .argumentList
     sign ","
     let _ ← call .expression
     let _ ← call .clauses
     mistake .bareGenerator,
  do let e ← call .argumentList
     sign ","
     let _ ← call .argumentList
     mistake (if (argumentsOf e).any isUnpacked then .positionalAfterUnpacking else .positionalAfterKeyword)]

def badKeyword : Parser Expr := choice [
  do let e ← group [word .true, word .false, word .none]
     sign "="
     mistake (.assignsTo e.kind),
  do let _ ← name
     sign "="
     let _ ← call .expression
     let _ ← call .clauses
     mistake .singleEquals,
  do notAhead (group [name *> sign "="])
     let _ ← call .expression
     sign "="
     mistake .assignsArgument]

/-! ### Brackets -/

/-- What is unpacked in a comprehension, or several values without brackets. -/
def badComprehension : Parser Expr := choice [
  do group [sign "(", sign "\x7b"]
     let _ ← call .starredArgument
     let _ ← call .clauses
     mistake .unpacksInComprehension,
  do group [sign "\x7b"]
     let _ ← call .namedItem
     sign ","
     let _ ← call .namedItems
     let _ ← call .clauses
     mistake .bareComprehension,
  do group [sign "\x7b"]
     let _ ← call .namedItem
     sign ","
     let _ ← call .clauses
     mistake .bareComprehension]

def badDictComprehension : Parser Expr := do
  sign "\x7b"
  sign "**"
  let _ ← call .bitOr
  let _ ← call .clauses
  sign "\x7d"
  mistake .unpacksDictionary

def badGroup : Parser Expr := choice [
  do sign "("
     let _ ← call .starredArgument
     sign ")"
     mistake .starredAlone,
  do sign "("
     sign "**"
     let _ ← call .expression
     sign ")"
     mistake .doubleStarredAlone]

def badTarget : Parser Expr := do
  let _ ← opt (sign "async")
  sign "for"
  let e ← call .starExpressions
  match e.badTarget? with
  | some bad => mistake (.assignsTo bad.kind)
  | none => refuse

def badValue : List (Parser Expr) := [
  do let _ ← call .expression
     sign ":"
     sign "*"
     let _ ← call .bitOr
     mistake .starredValue,
  do let _ ← call .expression
     sign ":"
     ahead (group [sign "\x7d", sign ","])
     mistake .missingValue]

def badPairs : Parser Expr := choice (
  (do let _ ← separated (call .pairOrUnpacked)
      sign ","
      call .badPair) :: badValue call)

def badPair : Parser Expr := choice (
  (do let _ ← call .expression
      notAhead (sign ":")
      mistake .missingColon) :: badValue call)

end TreeLint.Literal.Grammar
