/-
  TreeLint/Text/Pattern.lean
  ==========================
  **Patterns of text.**  A pattern is matched from an offset on.  Where it can go on in more than one way,
  the ways are tried in order and the first that leads to a match of the whole pattern counts: the first
  of two alternatives before the second, and of a repetition the longest before shorter ones, or the
  other way round where it is said to be reluctant.  Stretches of the text that marked parts of a pattern
  cover are kept.

  Matches are searched from left to right, each after the end of the one before.
-/
import TreeLint.Text.Word

namespace TreeLint.Text

inductive Pattern where
  | empty
  | chars (test : Char → Bool) (least : Nat) (most : Option Nat) (reluctant : Bool)
  | both (first second : Pattern)
  | either (first second : Pattern)
  | times (part : Pattern) (least : Nat) (most : Option Nat)
  | marked (part : Pattern)
  | wordEdge (expected : Bool)
  | notAfter (test : Char → Bool)

/-- A part of a text, from an offset up to another. -/
structure Stretch where
  start : Nat
  stop : Nat
  deriving DecidableEq, Repr

/-- Where a match ends, and the stretches that its marked parts cover. -/
structure Match where
  stop : Nat
  marks : List Stretch
  deriving DecidableEq, Repr

namespace Pattern

/-! ### Building patterns -/

def char (test : Char → Bool) : Pattern := .chars test 1 (some 1) false

def optionalChar (test : Char → Bool) : Pattern := .chars test 0 (some 1) false

def anyChars (test : Char → Bool) : Pattern := .chars test 0 none false

def someChars (test : Char → Bool) : Pattern := .chars test 1 none false

/-- Between two numbers of characters, as many as possible. -/
def between (least most : Nat) (test : Char → Bool) : Pattern := .chars test least (some most) false

def sequence : List Pattern → Pattern
  | [] => .empty
  | [p] => p
  | p :: rest => .both p (sequence rest)

/-- Alternatives in order; without any, the empty pattern. -/
def alternatives : List Pattern → Pattern
  | [] => .empty
  | [p] => p
  | p :: rest => .either p (alternatives rest)

def optional (p : Pattern) : Pattern := .either p .empty

def exactly (s : String) : Pattern := sequence (s.toList.map fun c => char (· == c))

/-! ### Matching -/

/-- Whether a word begins or ends at an offset. -/
def isWordEdge (text : Array Char) (i : Nat) : Bool :=
  let isWordAt (j : Nat) : Bool := (text[j]?.map isWordChar).getD false
  (0 < i && isWordAt (i - 1)) != isWordAt i

/-- How many characters from an offset on pass a test, up to a limit; `counted` have been counted. -/
def countFrom (test : Char → Bool) (text : Array Char) (i : Nat) : Nat → Nat → Nat
  | 0, counted => counted
  | limit + 1, counted =>
    match text[i + counted]? with
    | some c => if test c then countFrom test text i limit (counted + 1) else counted
    | none => counted

/-- Tries numbers from the greatest down to the least. -/
def tryDown (least : Nat) (next : Nat → Option Match) : Nat → Option Match
  | 0 => if least = 0 then next 0 else none
  | n + 1 =>
    if n + 1 < least then none
    else match next (n + 1) with
      | some found => some found
      | none => tryDown least next n

/-- Tries as many numbers as `more` says after the first one. -/
def tryUp (next : Nat → Option Match) (n : Nat) : Nat → Option Match
  | 0 => next n
  | more + 1 =>
    match next n with
    | some found => some found
    | none => tryUp next (n + 1) more

/-- What follows a part of a match: it ends at an offset and has covered stretches. -/
abbrev Rest := Nat → List Stretch → Option Match

/-- Repeats a part, as often as possible first.  It may be repeated `left` more times and has been
matched `done` times; every time it takes at least one character. -/
def repeatPart (part : Nat → List Stretch → Rest → Option Match) (least : Nat) :
    Nat → Nat → Nat → List Stretch → Rest → Option Match
  | 0, done, i, marks, rest => if least ≤ done then rest i marks else none
  | left + 1, done, i, marks, rest =>
    match part i marks fun j covered =>
        if i < j then repeatPart part least left (done + 1) j covered rest else none with
    | some found => some found
    | none => if least ≤ done then rest i marks else none

/-- Matches a pattern from an offset on, and what follows it after that. -/
def run (text : Array Char) : Pattern → Nat → List Stretch → Rest → Option Match
  | .empty, i, marks, rest => rest i marks
  | .chars test least most reluctant, i, marks, rest =>
    let count := countFrom test text i (most.getD text.size) 0
    let next (n : Nat) : Option Match := rest (i + n) marks
    if count < least then none
    else if reluctant then tryUp next least (count - least)
    else tryDown least next count
  | .both p q, i, marks, rest => p.run text i marks fun j covered => q.run text j covered rest
  | .either p q, i, marks, rest =>
    match p.run text i marks rest with
    | some found => some found
    | none => q.run text i marks rest
  | .times p least most, i, marks, rest =>
    repeatPart (p.run text) least (most.getD text.size) 0 i marks rest
  | .marked p, i, marks, rest => p.run text i marks fun j covered => rest j (⟨i, j⟩ :: covered)
  | .wordEdge expected, i, marks, rest => if isWordEdge text i = expected then rest i marks else none
  | .notAfter test, i, marks, rest =>
    if 0 < i && (text[i - 1]?.map test).getD false then none else rest i marks

def matchAt? (p : Pattern) (text : Array Char) (i : Nat) : Option Match :=
  p.run text i [] fun j marks => some ⟨j, marks⟩

/-- The matches from an offset on, behind those that have been found already, the last of them first.
Matches without characters are left out. -/
def matchesFrom (p : Pattern) (text : Array Char) : Nat → Nat → List Match → List Match
  | 0, _, found => found.reverse
  | bound + 1, i, found =>
    match p.matchAt? text i with
    | some m =>
      if i < m.stop then matchesFrom p text bound m.stop (m :: found)
      else matchesFrom p text bound (i + 1) found
    | none => matchesFrom p text bound (i + 1) found

def allMatches (p : Pattern) (text : Array Char) : List Match := p.matchesFrom text text.size 0 []

end Pattern

end TreeLint.Text
