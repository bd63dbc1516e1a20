/-
  TreeLint/Literal/Grammar.lean
  =============================
  **The grammar.**  Every phrase has a parser that is made from the parsers of other phrases.  A phrase is
  nested one deeper than the one that it is part of, and one with operators from left to right is nested two
  deeper.
-/
import TreeLint.Literal.Grammar.Functions
import TreeLint.Literal.Grammar.Mistakes

namespace TreeLint.Literal

open TreeLint.Literal.Parser

namespace Grammar

/-- The parser of a phrase, given parsers for all phrases. -/
def body (call : Phrase → Parser Expr) : Phrase → Parser Expr
  | .expressions => commaItems call .expression
  | .expression => expression call
  | .plainExpression => plainExpression call
  | .yielded => yielded call
  | .starExpressions => commaItems call .starExpression
  | .starExpression => starExpression call
  | .namedItems => namedItems call
  | .namedItem => namedItem call
  | .assignment => assignment call
  | .named => named call
  | .disjunction => joined call "or" .conjunction
  | .conjunction => joined call "and" .inversion
  | .inversion => inversion call
  | .comparison => comparison call
  | .bitOr => leftJoined call ["|"] .bitXor operands
  | .bitXor => leftJoined call ["^"] .bitAnd operands
  | .bitAnd => leftJoined call ["&"] .shift operands
  | .shift => leftJoined call ["<<", ">>"] .sum operands
  | .sum => leftJoined call ["+", "-"] .term .sum
  | .term => leftJoined call ["*", "/", "//", "%", "@"] .factor operands
  | .factor => factor call
  | .power => power call
  | .awaited => awaited call
  | .primary => primary call
  | .atom => atom call
  | .texts => joinedTexts
  | .group => bracketed call
  | .tuple => tuple call
  | .set => set call
  | .dict => dict call
  | .pairs => pairs call
  | .pairOrUnpacked => pairOrUnpacked call
  | .pair => pair call
  | .clauses => clauses call
  | .clause => clause call
  | .setComprehension => setComprehension call
  | .generator => generator call
  | .dictComprehension => dictComprehension call
  | .arguments => arguments call
  | .argumentList => argumentList call
  | .keywordList => keywordList call
  | .starredArgument => starredArgument call
  | .keywordOrStarred => keywordOrStarred call
  | .keywordOrUnpacked => keywordOrUnpacked call
  | .targets => targets call
  | .tupleTargets => tupleTargets call
  | .target => target call
  | .memberTarget => memberTarget call
  | .atomTarget => atomTarget call
  | .targetPrimary => targetPrimary call
  | .function => function call
  | .parameterList => parameterList call
  | .parameters => parameters call
  | .slashRequired => slashRequired call
  | .slashDefault => slashDefault call
  | .starPart => starPart call
  | .doubleStarPart => doubleStarPart call
  | .required => required call
  | .withDefault => withDefault call
  | .maybeDefault => maybeDefault call
  | .parameter => parameter
  | .defaultValue => defaultValue call
  | .badExpression => badExpression call
  | .oldCommand => oldCommand call
  | .badNamed => badNamed call
  | .badArguments => badArguments call
  | .badKeyword => badKeyword call
  | .badComprehension => badComprehension call
  | .badDictComprehension => badDictComprehension call
  | .badGroup => badGroup call
  | .badTarget => badTarget call
  | .badPairs => badPairs call
  | .badPair => badPair call
  | .badParameters => badParameters call
  | .defaultsFirst => defaultsFirst call
  | .badStar => badStar call
  | .badDoubleStar => badDoubleStar call
  | .badDefault => badDefault

/-- The parser of a phrase in which no more than `bound` phrases are nested. -/
def within : Nat → Phrase → Parser Expr
  | 0, _ => stop (.worth .tooNested)
  | bound + 1, phrase =>
    let p := body (within bound) phrase
    nested (
      if phrase.isChain then kept phrase (nested p)
      else if phrase.isKept then kept phrase p
      else choice [p])

def parser (phrase : Phrase) : Parser Expr := within mostNested phrase

end Grammar

/-- A whole text: expressions, and nothing but ends of lines behind them. -/
def Grammar.whole : Parser Expr := nested do
  let e ← parser .expressions
  let _ ← many (token fun t => if t.kind = .lineEnd then some () else none)
  token fun t => if t.kind = .ending then some e else none

def Grammar.field : Parser Expr := nested (parser .starExpressions)

end TreeLint.Literal
