/-
  TreeLint/Literal/Numeral.lean
  =============================
  **Numbers in literals.**  A number is written in decimal digits, possibly with a point, an exponent and
  the letter of an imaginary number, or in the digits of another base after a zero and the letter of the
  base.  Single underscores may stand between digits.

  No character of a word may follow a number, except where the number is followed by one of a few words
  that can stand between two operands.
-/
import TreeLint.Literal.Cause

namespace TreeLint.Literal

/-- A character that a word or a number can go on with: an ASCII word character, or any other character
beyond ASCII, which is looked at more closely when the word is complete. -/
def isRunChar (c : Char) : Bool := c.isAlphanum || c == '_' || 0x80 ≤ c.toNat

namespace Numeral

/-! ### Where a number ends -/

def wordsAfter : List (List Char) := ["and", "else", "for", "or", "not"].map String.toList

/-- The words that may follow a number directly whatever they are continued by. -/
def beginningsAfter : List (List Char) := ["if", "in", "is"].map String.toList

def mayFollow (cs : List Char) : Bool :=
  beginningsAfter.any (·.isPrefixOf cs)
    || wordsAfter.any fun word => word.isPrefixOf cs && !(cs.drop word.length).head?.any isRunChar

def complete (base : String) (cs : List Char) : Except TokenFault (List Char) :=
  if mayFollow cs || !cs.head?.any isRunChar then .ok cs else .error (.badNumber base)

def completeDecimal (cs : List Char) : Except TokenFault (List Char) :=
  match cs with
  | c :: rest => if c = 'j' ∨ c = 'J' then complete "imaginary" rest else complete "decimal" cs
  | [] => .ok []

def afterDigits : List Char → Except TokenFault (List Char)
  | [] => .ok []
  | c :: rest =>
    if c.isDigit then afterDigits rest
    else if c = '_' then
      if rest.head?.any Char.isDigit then afterDigits rest else .error (.badNumber "decimal")
    else .ok (c :: rest)

/-- The text after a number that goes on with the letter of an exponent.  Where no digit follows, the
letter may begin a word after the number. -/
def afterExponent (cs : List Char) : Except TokenFault (List Char) :=
  let digits := cs.drop 1
  match digits with
  | c :: rest =>
    if c = '+' ∨ c = '-' then
      if rest.head?.any Char.isDigit then afterDigits rest >>= completeDecimal
      else .error (.badNumber "decimal")
    else if c.isDigit then afterDigits digits >>= completeDecimal
    else complete "decimal" cs
  | [] => complete "decimal" cs

/-- The text after a number whose digits before and after the point have been read. -/
def afterFraction (cs : List Char) : Except TokenFault (List Char) :=
  match cs with
  | c :: _ => if c = 'e' ∨ c = 'E' then afterExponent cs else completeDecimal cs
  | [] => .ok []

def afterPoint (cs : List Char) : Except TokenFault (List Char) :=
  if cs.head?.any Char.isDigit then afterDigits cs >>= afterFraction else afterFraction cs

def afterZeros : List Char → Except TokenFault (List Char)
  | [] => .ok []
  | c :: rest =>
    if c = '0' then afterZeros rest
    else if c = '_' then
      match rest with
      | d :: _ => if d.isDigit then afterZeros rest else .error (.badNumber "decimal")
      | [] => .error (.badNumber "decimal")
    else .ok (c :: rest)

def afterDecimal (cs : List Char) : Except TokenFault (List Char) := do
  let zeroed ← if cs.head? = some '0' then afterZeros cs else pure cs
  let rest ← if zeroed.head?.any Char.isDigit then afterDigits zeroed else pure zeroed
  match rest with
  | c :: after =>
    if c = '.' then afterPoint after
    else if c = 'e' ∨ c = 'E' then afterExponent rest
    else if c = 'j' ∨ c = 'J' then complete "imaginary" after
    else if cs.head? = some '0' ∧ rest.length < zeroed.length then .error .leadingZeros
    else complete "decimal" rest
  | [] => if cs.head? = some '0' ∧ !zeroed.isEmpty then .error .leadingZeros else pure []

/-- A base other than ten: its letter, its size and its name. -/
structure Radix where
  letter : Char
  base : Nat
  name : String
  deriving DecidableEq, Repr

def radixes : List Radix := [⟨'x', 16, "hexadecimal"⟩, ⟨'o', 8, "octal"⟩, ⟨'b', 2, "binary"⟩]

def digitOf? (base : Nat) (c : Char) : Option Nat :=
  let value := if c.isDigit then c.toNat - 0x30 else c.toLower.toNat - 0x57
  if (c.isDigit || ('a' ≤ c.toLower && c.toLower ≤ 'f')) && value < base then some value else none

def Radix.fault (radix : Radix) (next : Option Char) : TokenFault :=
  match next with
  | some c => if c.isDigit then .badDigit c radix.name else .badNumber radix.name
  | none => .badNumber radix.name

/-- The text after digits of a base.  `wanted` tells whether a digit has to follow, and `joined` whether an
underscore has just been read. -/
def Radix.after (radix : Radix) : Bool → Bool → List Char → Except TokenFault (List Char)
  | wanted, _, [] => if wanted then .error (radix.fault none) else .ok []
  | wanted, joined, c :: rest =>
    if (digitOf? radix.base c).isSome then radix.after false false rest
    else if c = '_' ∧ !joined then radix.after true true rest
    else if wanted || c.isDigit then .error (radix.fault (some c))
    else complete radix.name (c :: rest)

def radix? : List Char → Option Radix
  | '0' :: letter :: _ => radixes.find? (·.letter == letter.toLower)
  | _ => none

def after (cs : List Char) : Except TokenFault (List Char) :=
  match radix? cs with
  | some radix => radix.after true false (cs.drop 2)
  | none => if cs.head? = some '.' then afterPoint (cs.drop 1) else afterDecimal cs

/-! ### What a number is -/

end Numeral

/-- A number: a whole one with its value, another real one, or an imaginary one. -/
inductive Numeral where
  | whole (value : Nat)
  | real
  | imaginary
  deriving DecidableEq, Repr

namespace Numeral

def mostDigits : Nat := 4300

def valueOf (base : Nat) (cs : List Char) : Nat :=
  (cs.filterMap (digitOf? base)).foldl (fun n d => base * n + d) 0

def ofText (text : List Char) : Except Cause Numeral :=
  match radix? text with
  | some radix => .ok (.whole (valueOf radix.base (text.drop 2)))
  | none =>
    if text.any fun c => c == 'j' || c == 'J' then .ok .imaginary
    else if text.any fun c => c == '.' || c == 'e' || c == 'E' then .ok .real
    else
      let digits := text.filter Char.isDigit
      if mostDigits < digits.length ∧ text.head? ≠ some '0' then .error (.digits digits.length)
      else .ok (.whole (valueOf 10 digits))

end Numeral

end TreeLint.Literal
