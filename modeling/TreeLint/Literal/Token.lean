/-
  TreeLint/Literal/Token.lean
  ===========================
  **Tokens.**  A text is divided into words, numbers, quoted texts and signs, and into marks for the ends
  of lines, for deeper and for shallower lines, and for the end.  Words and signs are told apart by their
  text; some words are reserved and are no names.
-/

namespace TreeLint.Literal

/-- The kinds of tokens.  `other` is a character that is part of no other token. -/
inductive Kind where
  | word (text : String)
  | number (text : List Char)
  | quoted (text : List Char)
  | sign (text : String)
  | lineEnd
  | indent
  | unindent
  | ending
  | other
  deriving DecidableEq, Repr, Inhabited

/-- A token: its kind, the number of brackets that are open after it, the line where it ends or, for a
quoted text, begins, and whether the end of the text had to be looked at to find where it ends. -/
structure Token where
  kind : Kind
  level : Nat
  line : Nat
  touchesEnd : Bool
  deriving DecidableEq, Repr, Inhabited

def reservedWords : List String :=
  ["False", "None", "True", "and", "as", "assert", "async", "await", "break", "class", "continue", "def",
   "del", "elif", "else", "except", "finally", "for", "from", "global", "if", "import", "in", "is",
   "lambda", "nonlocal", "not", "or", "pass", "raise", "return", "try", "while", "with", "yield"]

/-- The names that are reserved words in other places. -/
def softWords : List String := ["_", "case", "match"]

def Token.is (text : String) (t : Token) : Bool :=
  match t.kind with
  | .sign s => s == text
  | .word s => s == text
  | _ => false

def Token.name? (t : Token) : Option String :=
  match t.kind with
  | .word text => if reservedWords.contains text then none else some text
  | _ => none

/-- Whether a token is a name that is reserved in other places, or the beginning of one. -/
def Token.isSoft (t : Token) : Bool := t.name?.any fun name => softWords.any (name.isPrefixOf ·)

def Token.isQuoted (t : Token) : Bool :=
  match t.kind with
  | .quoted _ => true
  | _ => false

end TreeLint.Literal
