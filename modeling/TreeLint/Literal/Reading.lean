/-
  TreeLint/Literal/Reading.lean
  =============================
  **Reading expressions.**  The tokens of a text are read as an expression.  If they are none, they are
  read again, this time looking for mistakes, which may tell what is wrong; else the form as a whole is
  wrong.  A fault further on in the text, which no token has come from, counts more than a mistake.

  The fields of formatted texts hold expressions, which are read in the same way.

  The parameters of an event in markup are a handler's name, a literal, or a name with literals in round
  brackets after it.
-/
import TreeLint.Literal.Formatted
import TreeLint.Literal.Grammar
import TreeLint.Literal.Scan
import TreeLint.Literal.Worth
import TreeLint.Text.Blank
import TreeLint.Text.Word

namespace TreeLint.Literal

/-! ### What counts -/

def Scan.last? (s : Scan) (reached : Nat) : Option Token := s.tokens[reached - 1]?

/-- The cause that counts when another one has been found after a look at some tokens: a fault in the rest
of the text, or a bracket that is open since an earlier line. -/
def Scan.overriding (s : Scan) (reached : Nat) (cause : Cause) : Cause :=
  match s.fault, s.opened, s.last? reached with
  | none, _, _ => cause
  | some fault, opened, last? =>
    if fault.isLoud then .token fault
    else match opened, last? with
      | some (opening, line), some last => if line < last.line then .token (.neverClosed opening) else cause
      | _, _ => cause

/-- The cause that counts when a mistake has been found.  Where the reader has come to the end of the text,
there is nothing left to look at. -/
def Scan.settled (s : Scan) (reached : Nat) (cause : Cause) : Cause :=
  if s.tokens.size < reached || (s.last? reached).any (·.touchesEnd) || !cause.isForm then cause
  else s.overriding reached cause

/-- The cause that counts when no mistake has been found: `first` tokens have been looked at at first, and
`reached` tokens in all. -/
def Scan.unexplained (s : Scan) (first reached : Nat) : Cause :=
  match (s.last? first).map Token.kind with
  | some .indent => .form .unexpectedIndent
  | some .unindent => .form .unexpectedUnindent
  | _ => s.overriding reached (.form .malformed)

/-! ### Reading -/

/-- Reads tokens by a parser, and a second time looking for mistakes if it finds nothing. -/
def Scan.read (s : Scan) (join : List Token → Except Cause Expr) (p : Parser Expr) : Except Cause Expr :=
  let input : Input := ⟨s.tokens, .token (s.fault.getD .endOfText), join⟩
  match p input 0 0 ⟨0, false, ∅⟩ with
  | .found e _ _ => .ok e
  | .stopped cause memory => .error (s.settled memory.reached cause)
  | .missing memory | .refused memory =>
    let first := memory.reached
    match p input 0 0 ⟨first, true, ∅⟩ with
    | .stopped cause memory => .error (s.settled memory.reached cause)
    | .found _ _ memory | .missing memory | .refused memory =>
      .error (s.unexplained first memory.reached)

/-- Checks quoted texts that stand side by side, given what kind the last one was.  `read` reads the
expression of a field that begins in a line. -/
def checkTexts (read : Nat → List Char → Except Cause Unit) :
    Option Bool → List Token → Except Cause Unit
  | _, [] => .ok ()
  | before, t :: rest =>
    match t.kind with
    | .quoted text => do
      let q := Quotation.ofText text
      if !q.formatted then
        match q.fault? with
        | some fault => throw (.quote fault)
        | none => pure ()
      if before.any (· != q.bytes) then throw (.quote .mixed)
      if q.formatted then q.formattedFault fun lines taken => read (t.line + lines) taken
      checkTexts read (some q.bytes) rest
    | _ => checkTexts read before rest

def Token.quotation? (t : Token) : Option Quotation :=
  match t.kind with
  | .quoted text => some (Quotation.ofText text)
  | _ => none

def joinTexts (read : Nat → List Char → Except Cause Unit) (ts : List Token) : Except Cause Expr := do
  checkTexts read none ts
  let qs := ts.filterMap Token.quotation?
  pure (if qs.any (·.formatted) then .formatted else if qs.any (·.bytes) then .bytes else .quoted)

/-- Reads the expression of a field that begins in a line, as if it stood in round brackets.  No more than
`bound` fields can be nested. -/
def readField : Nat → Nat → List Char → Except Cause Unit
  | 0, _, _ => .ok ()
  | bound + 1, line, taken =>
    let scan := Scan.ofText line ('(' :: taken ++ [')', '\n'])
    match scan.read (joinTexts (readField bound)) Grammar.field with
    | .ok _ => .ok ()
    | .error cause => .error cause.ofField

/-- The expression that a text is.  A field is shorter than the text that it is part of. -/
def readExpr (text : List Char) : Except Cause Expr :=
  (Scan.ofText 1 text).read (joinTexts (readField text.length)) Grammar.whole

/-- What is wrong with a text that should be a literal. -/
def cause? (text : List Char) : Option Cause :=
  if text.contains (Char.ofNat 0) then some (.worth .null)
  else match readExpr (text.dropWhile fun c => c == ' ' || c == '\t') with
    | .error cause => some cause
    | .ok e => e.worthFault?.map .worth

/-! ### Parameters of events -/

structure Fault where
  literal : String
  cause : Cause
  deriving DecidableEq, Repr

def Fault.message (fault : Fault) : String := fault.cause.message

/-- How the literal is named in front of the parameters that it is part of.  Only matters of form are told
with the literal. -/
def Fault.place (fault : Fault) : String :=
  if fault.cause.isForm then Text.quoted fault.literal ++ " in " else ""

/-- The literal in parameters: what stands in round brackets after a handler's name, nothing after a
bare name, and otherwise all of it. -/
def literalOf (parameters : List Char) : List Char :=
  let cs := Text.trim parameters
  let rest := cs.dropWhile fun c => Text.isWordChar c || c == '.'
  if rest.isEmpty then ['(', ')']
  else if rest.head? = some '(' && rest.getLast? = some ')' && !rest.contains '\n' then rest
  else cs

def fault? (parameters : List Char) : Option Fault :=
  let literal := literalOf parameters
  (cause? literal).map fun cause => ⟨String.ofList literal, cause⟩

end TreeLint.Literal
