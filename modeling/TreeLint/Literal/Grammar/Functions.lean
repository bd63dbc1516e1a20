/-
  TreeLint/Literal/Grammar/Functions.lean
  =======================================
  **Functions.**  A function without a name has parameters, a colon, and an expression.  Parameters that
  are given by position only come before a slash; behind a star come those that are given by name only;
  behind two stars is the one for all other names.  A parameter with a default value is followed by none
  without, up to a star.
-/
import TreeLint.Literal.Grammar.Operators

namespace TreeLint.Literal.Grammar

open TreeLint.Literal.Parser

variable (call : Phrase → Parser Expr)

/-- What is found where nothing of it is kept. -/
def unkept : Expr := .tuple []

def function : Parser Expr := do
  sign "lambda"
  let _ ← opt (call .parameterList)
  sign ":"
  let e ← call .expression
  pure (.compound .function [e])

def parameterList : Parser Expr := choice [
  whenWrong (call .badParameters),
  call .parameters]

def parameters : Parser Expr := choice [
  do let _ ← call .slashRequired
     let _ ← many (call .required)
     let _ ← many (call .withDefault)
     let _ ← opt (call .starPart)
     pure unkept,
  do let _ ← call .slashDefault
     let _ ← many (call .withDefault)
     let _ ← opt (call .starPart)
     pure unkept,
  do let _ ← many1 (call .required)
     let _ ← many (call .withDefault)
     let _ ← opt (call .starPart)
     pure unkept,
  do let _ ← many1 (call .withDefault)
     let _ ← opt (call .starPart)
     pure unkept,
  call .starPart]

/-- A comma, or the colon behind the last parameter, which stays. -/
def parameterEnds : List (Parser Unit) := [sign ",", ahead (sign ":")]

def slashRequired : Parser Expr := choice (parameterEnds.map fun ends => do
  let _ ← many1 (call .required)
  sign "/"
  ends
  pure unkept)

def slashDefault : Parser Expr := choice (parameterEnds.map fun ends => do
  let _ ← many (call .required)
  let _ ← many1 (call .withDefault)
  sign "/"
  ends
  pure unkept)

def starPart : Parser Expr := choice [
  whenWrong (call .badStar),
  do sign "*"
     let _ ← call .required
     let _ ← many (call .maybeDefault)
     let _ ← opt (call .doubleStarPart)
     pure unkept,
  do sign "*"
     sign ","
     let _ ← many1 (call .maybeDefault)
     let _ ← opt (call .doubleStarPart)
     pure unkept,
  call .doubleStarPart]

def doubleStarPart : Parser Expr := choice [
  whenWrong (call .badDoubleStar),
  sign "**" *> call .required]

def required : Parser Expr := choice (parameterEnds.map (call .parameter <* ·))

def withDefault : Parser Expr :=
  choice (parameterEnds.map ((call .parameter <* call .defaultValue) <* ·))

def maybeDefault : Parser Expr :=
  choice (parameterEnds.map ((call .parameter <* opt (call .defaultValue)) <* ·))

def parameter : Parser Expr := name

def defaultValue : Parser Expr := choice [
  sign "=" *> call .expression,
  whenWrong (call .badDefault)]

/-! ### Mistakes -/

/-- Parameters in brackets, without a default behind one with a default, or with a slash that is out of
place. -/
def badParameters : Parser Expr := choice [
  do let _ ← many (call .required)
     let _ ← call .defaultsFirst
     let _ ← call .required
     mistake .requiredAfterDefault,
  do let _ ← many (call .required)
     sign "("
     let _ ← separated (call .parameter)
     let _ ← opt (sign ",")
     sign ")"
     mistake .bracketedParameters,
  do sign "/"
     sign ","
     mistake .slashFirst,
  do let _ ← group [call .slashRequired, call .slashDefault]
     let _ ← many (call .maybeDefault)
     sign "/"
     mistake .slashTwice,
  do let _ ← opt (group [call .slashRequired, call .slashDefault])
     let _ ← many (call .maybeDefault)
     sign "*"
     let _ ← group [sign "," *> pure unkept, call .required]
     let _ ← many (call .maybeDefault)
     sign "/"
     mistake .slashAfterStar,
  do let _ ← many1 (call .maybeDefault)
     sign "/"
     sign "*"
     mistake .slashBeforeStar]

/-- Parameters up to one with a default value. -/
def defaultsFirst : Parser Expr := choice [
  call .slashDefault,
  many1 (call .withDefault) *> pure unkept]

/-- A star with nothing behind it, with a default value, or a second time. -/
def badStar : Parser Expr := choice [
  do sign "*"
     group [sign ":", sign "," *> group [sign ":", sign "**"]]
     mistake .bareStar,
  do sign "*"
     let _ ← call .parameter
     sign "="
     mistake .starDefault,
  do sign "*"
     let _ ← group [call .required, sign "," *> pure unkept]
     let _ ← many (call .maybeDefault)
     sign "*"
     let _ ← group [call .required, sign "," *> pure unkept]
     mistake .starTwice]

/-- Two stars with a default value, or with more parameters behind. -/
def badDoubleStar : Parser Expr := choice [
  do sign "**"
     let _ ← call .parameter
     sign "="
     mistake .doubleStarDefault,
  do sign "**"
     let _ ← call .parameter
     sign ","
     let _ ← call .parameter
     mistake .afterDoubleStar,
  do sign "**"
     let _ ← call .parameter
     sign ","
     group [sign "*", sign "**", sign "/"]
     mistake .afterDoubleStar]

def badDefault : Parser Expr := do
  sign "="
  ahead (group [sign ")", sign ","])
  mistake .missingDefault

end TreeLint.Literal.Grammar
