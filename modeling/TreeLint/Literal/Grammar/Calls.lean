/-
  TreeLint/Literal/Grammar/Calls.lean
  ===================================
  **Arguments of calls and targets of loops.**  Arguments are given by position, by name, or unpacked from
  other values; those by position come first.  A target is a name, an attribute, or a tuple of targets.
-/
import TreeLint.Literal.Grammar.Atoms

namespace TreeLint.Literal.Grammar

open TreeLint.Literal.Parser

variable (call : Phrase → Parser Expr)

/-! ### Arguments -/

/-- The arguments of a call, up to the closing bracket. -/
def arguments : Parser Expr := choice [
  do let e ← call .argumentList
     let _ ← opt (sign ",")
     ahead (sign ")")
     pure e,
  whenWrong (call .badArguments)]

def asCall (arguments : List Expr) : Expr := .call (.name "") arguments

def argumentList : Parser Expr := choice [
  do let positional ← separated (group [
       call .starredArgument,
       element call <* notAhead (sign "=")])
     let others ← opt (nested (sign "," *> call .keywordList))
     pure (asCall (positional ++ (others.map itemsOf).getD [])),
  do let others ← call .keywordList
     pure (asCall (itemsOf others))]

/-- Arguments of which the first is given by name or unpacked. -/
def keywordList : Parser Expr := choice [
  do let first ← separated (call .keywordOrStarred)
     sign ","
     let others ← separated (call .keywordOrUnpacked)
     pure (.tuple (first ++ others)),
  .tuple <$> separated (call .keywordOrStarred),
  .tuple <$> separated (call .keywordOrUnpacked)]

def starredArgument : Parser Expr := do
  sign "*"
  let e ← call .expression
  pure (.starred e)

def keyword : Parser Expr := do
  let _ ← name
  sign "="
  let e ← call .expression
  pure (.keyword e)

def keywordOrStarred : Parser Expr := choice [
  whenWrong (call .badKeyword),
  keyword call,
  call .starredArgument]

def keywordOrUnpacked : Parser Expr := choice [
  whenWrong (call .badKeyword),
  keyword call,
  do sign "**"
     let e ← call .expression
     pure (.unpacked e)]

/-! ### Targets -/

/-- One target, or several with commas between them. -/
def targets : Parser Expr := choice [
  call .target <* notAhead (sign ","),
  do let first ← call .target
     let others ← many (nested (sign "," *> call .target))
     let _ ← opt (sign ",")
     pure (.tuple (first :: others))]

def tupleTargets : Parser Expr := choice [
  do let first ← call .target
     let others ← many1 (nested (sign "," *> call .target))
     let _ ← opt (sign ",")
     pure (.tuple (first :: others)),
  do let first ← call .target
     sign ","
     pure (.tuple [first])]

/-- A target that may take the values that are left. -/
def target : Parser Expr := choice [
  do sign "*"
     let e ← group [notAhead (sign "*") *> call .target]
     pure (.starred e),
  call .memberTarget]

def partAhead : Parser Unit := group [sign "(", sign "."]

def memberTarget : Parser Expr := choice [
  do let e ← call .targetPrimary
     let a ← memberOf e
     notAhead partAhead
     pure a,
  call .atomTarget]

/-- A target that is a name, or stands in brackets. -/
def atomTarget : Parser Expr := choice [
  name,
  sign "(" *> call .memberTarget <* sign ")",
  do sign "("
     let items ← opt (call .tupleTargets)
     sign ")"
     pure (.tuple ((items.map itemsOf).getD []))]

/-- An operand up to its last attribute or call. -/
def targetPrimary : Parser Expr :=
  chain (call .atom <* ahead partAhead) fun e => choice [
    memberOf e <* ahead partAhead,
    generatorCall call e <* ahead partAhead,
    plainCall call e <* ahead partAhead]

end TreeLint.Literal.Grammar
