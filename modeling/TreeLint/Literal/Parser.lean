/-
  TreeLint/Literal/Parser.lean
  ============================
  **Parsers.**  A parser looks at the tokens from a position on.  It finds something and tells the position
  behind it, or it finds nothing, or a mistake stops everything.  Where a choice has come upon something
  that is not to be tried in any other way, it is refused.

  The tokens are looked at one after the other.  How far has been looked is kept, since a fault in the rest
  of the text does not count before somebody comes upon it.  Parsers may be nested only so deep.

  The phrases of the language have names, under which what was found can be kept.  Most of them are what
  expressions are made of.  The others are mistakes that are easily made; but for mistakes in dictionaries
  they are only looked for once it is clear that something is wrong.
-/
import Std.Data.HashMap
import TreeLint.Literal.Expr
import TreeLint.Literal.Token

namespace TreeLint.Literal

/-! ### Phrases -/

inductive Phrase where
  -- expressions and operators
  | expressions | expression | plainExpression | yielded | starExpressions | starExpression
  | namedItems | namedItem | assignment | named
  | disjunction | conjunction | inversion | comparison
  | bitOr | bitXor | bitAnd | shift | sum | term | factor | power | awaited | primary
  -- atoms
  | atom | texts | group | tuple | set | dict | pairs | pairOrUnpacked | pair
  | clauses | clause | setComprehension | generator | dictComprehension
  -- arguments of calls
  | arguments | argumentList | keywordList | starredArgument | keywordOrStarred | keywordOrUnpacked
  -- targets of loops
  | targets | tupleTargets | target | memberTarget | atomTarget | targetPrimary
  -- functions
  | function | parameterList | parameters | slashRequired | slashDefault | starPart | doubleStarPart
  | required | withDefault | maybeDefault | parameter | defaultValue
  -- mistakes
  | badExpression | oldCommand | badNamed | badArguments | badKeyword
  | badComprehension | badDictComprehension | badGroup | badTarget | badPairs | badPair
  | badParameters | defaultsFirst | badStar | badDoubleStar | badDefault
  deriving DecidableEq, Repr, Hashable

/-- Phrases with operators that associate to the left, or with parts behind an operand. -/
def Phrase.isChain : Phrase → Bool
  | .bitOr | .bitXor | .bitAnd | .shift | .sum | .term | .primary | .targetPrimary => true
  | _ => false

/-- Phrases that are looked for at most once at every position, since it is kept what was found. -/
def Phrase.isKept (phrase : Phrase) : Bool :=
  phrase.isChain || match phrase with
    | .expression | .starExpression | .disjunction | .conjunction | .inversion | .factor | .awaited
    | .texts | .arguments | .target | .memberTarget | .badNamed => true
    | _ => false

/-! ### Input and memory -/

/-- What is read: the tokens, what is wrong behind them, and how quoted texts that stand side by side are
joined. -/
structure Input where
  tokens : Array Token
  fault : Cause
  join : List Token → Except Cause Expr

/-- What is kept while reading: how many tokens have been looked at, whether mistakes are looked for, and
what phrases have been found at positions, or that there are none. -/
structure Memory where
  reached : Nat
  mistakes : Bool
  results : Std.HashMap (Phrase × Nat) (Option (Expr × Nat))

inductive Step (α : Type) where
  | found (value : α) (next : Nat) (memory : Memory)
  | missing (memory : Memory)
  | refused (memory : Memory)
  | stopped (cause : Cause) (memory : Memory)

/-- A parser, given the input, how deep it is nested, the position and the memory. -/
def Parser (α : Type) := Input → Nat → Nat → Memory → Step α

namespace Parser

variable {α β : Type}

/-! ### One after the other -/

@[inline] def found (a : α) : Parser α := fun _ _ position memory => .found a position memory

@[inline] def andThen (p : Parser α) (f : α → Parser β) : Parser β := fun input level position memory =>
  match p input level position memory with
  | .found a next memory => f a input level next memory
  | .missing memory => .missing memory
  | .refused memory => .refused memory
  | .stopped cause memory => .stopped cause memory

instance : Monad Parser where
  pure := found
  bind := andThen

def stop (cause : Cause) : Parser α := fun _ _ _ memory => .stopped cause memory

def mistake (m : Mistake) : Parser α := stop (.form m)

/-- Nothing else is to be tried. -/
def refuse : Parser α := fun _ _ _ memory => .refused memory

/-- Once something has been found that can only be continued like this, nothing else is to be tried. -/
def committed (p : Parser α) : Parser α := fun input level position memory =>
  match p input level position memory with
  | .missing memory => .refused memory
  | step => step

/-! ### Nesting and choice -/

def mostNested : Nat := 6000

@[inline] def nested (p : Parser α) : Parser α := fun input level position memory =>
  if mostNested ≤ level then .stopped (.worth .tooNested) memory
  else p input (level + 1) position memory

def choice : List (Parser α) → Parser α
  | [], _, _, _, memory => .missing memory
  | p :: others, input, level, position, memory =>
    match p input level position memory with
    | .missing memory => choice others input level position memory
    | .refused memory => .missing memory
    | step => step

def group (ps : List (Parser α)) : Parser α := nested (choice ps)

/-- What is only tried when mistakes are looked for. -/
def whenWrong (p : Parser α) : Parser α := fun input level position memory =>
  if memory.mistakes then p input level position memory else .missing memory

/-- Does not look for mistakes inside. -/
def trusting (p : Parser α) : Parser α := fun input level position memory =>
  let before := memory.mistakes
  match p input level position { memory with mistakes := false } with
  | .found a next memory => .found a next { memory with mistakes := before }
  | .missing memory => .missing { memory with mistakes := before }
  | .refused memory => .refused { memory with mistakes := before }
  | .stopped cause memory => .stopped cause memory

/-! ### Parts that may be missing or repeated -/

def opt (p : Parser α) : Parser (Option α) := fun input level position memory =>
  match p input level position memory with
  | .found a next memory => .found (some a) next memory
  | .missing memory | .refused memory => .found none position memory
  | .stopped cause memory => .stopped cause memory

/-- Looks whether something follows, and stays. -/
def ahead (p : Parser α) : Parser Unit := fun input level position memory =>
  match p input level position memory with
  | .found _ _ memory => .found () position memory
  | .missing memory | .refused memory => .missing memory
  | .stopped cause memory => .stopped cause memory

def notAhead (p : Parser α) : Parser Unit := fun input level position memory =>
  match p input level position memory with
  | .found _ _ memory => .missing memory
  | .missing memory | .refused memory => .found () position memory
  | .stopped cause memory => .stopped cause memory

/-- As often as possible, at most `bound` times, behind what has been found, the latest first. -/
def repeated (p : Parser α) : Nat → List α → Parser (List α)
  | 0, done, _, _, position, memory => .found done.reverse position memory
  | bound + 1, done, input, level, position, memory =>
    match p input level position memory with
    | .found a next memory => repeated p bound (a :: done) input level next memory
    | .missing memory | .refused memory => .found done.reverse position memory
    | .stopped cause memory => .stopped cause memory

/-- As often as possible.  Whatever is repeated takes a token every time. -/
def many (p : Parser α) : Parser (List α) :=
  nested fun input => repeated p input.tokens.size [] input

def many1 (p : Parser α) : Parser (List α) :=
  nested fun input => (do
    let first ← p
    repeated p input.tokens.size [first]) input

/-- A value that is extended as often as possible, at most `bound` times. -/
def extended (p : α → Parser α) : Nat → α → Parser α
  | 0, a, _, _, position, memory => .found a position memory
  | bound + 1, a, input, level, position, memory =>
    match p a input level position memory with
    | .found b next memory => extended p bound b input level next memory
    | .missing memory | .refused memory => .found a position memory
    | .stopped cause memory => .stopped cause memory

/-- A first part, and parts behind it as often as possible. -/
def chain (first : Parser α) (p : α → Parser α) : Parser α := fun input =>
  (do
    let a ← first
    extended p input.tokens.size a) input

/-! ### Tokens -/

def peek : Parser Token := fun input _ position memory =>
  match input.tokens[position]? with
  | some t => .found t position { memory with reached := max memory.reached (position + 1) }
  | none => .stopped input.fault { memory with reached := input.tokens.size + 1 }

def token (f : Token → Option α) : Parser α := fun input _ position memory =>
  match input.tokens[position]? with
  | some t =>
    let memory := { memory with reached := max memory.reached (position + 1) }
    match f t with
    | some a => .found a (position + 1) memory
    | none => .missing memory
  | none => .stopped input.fault { memory with reached := input.tokens.size + 1 }

def sign (text : String) : Parser Unit := token fun t => if t.is text then some () else none

def name : Parser Expr := token fun t => t.name?.map .name

/-- A name that is a reserved word in other places, or the beginning of one. -/
def softWord : Parser Unit := token fun t => if t.isSoft then some () else none

def quotedText : Parser Token := token fun t => if t.isQuoted then some t else none

def word (w : Word) : Parser Expr := sign w.text *> pure (.word w)

def number : Parser Expr := do
  let text ← token fun t =>
    match t.kind with
    | .number text => some text
    | _ => none
  match Numeral.ofText text with
  | .ok value => pure (.number value)
  | .error cause => stop cause

def joinedTexts : Parser Expr := fun input => (do
  let ts ← many1 quotedText
  match input.join ts with
  | .ok e => pure e
  | .error cause => stop cause) input

/-- The number of brackets that are open behind the last token. -/
def bracketLevel : Parser Nat := fun input _ position memory =>
  .found ((input.tokens[position - 1]?.map (·.level)).getD 0) position memory

def separated (p : Parser α) : Parser (List α) := nested do
  let first ← p
  let others ← many (sign "," *> p)
  pure (first :: others)

/-! ### Results that are kept -/

/-- What is found of a phrase is kept, and taken from there the next time. -/
def kept (phrase : Phrase) (p : Parser Expr) : Parser Expr := fun input level position memory =>
  match peek input level position memory with
  | .found _ _ memory =>
    match memory.results[(phrase, position)]? with
    | some (some (e, next)) => .found e next memory
    | some none => .missing memory
    | none =>
      match p input level position memory with
      | .found e next memory =>
        .found e next { memory with results := memory.results.insert (phrase, position) (some (e, next)) }
      | .missing memory | .refused memory =>
        .missing { memory with results := memory.results.insert (phrase, position) none }
      | .stopped cause memory => .stopped cause memory
  | .missing memory | .refused memory => .missing memory
  | .stopped cause memory => .stopped cause memory

end Parser

end TreeLint.Literal
