/-
  TreeLint/Data/Scalar.lean
  =========================
  **Reading single values**, as pydantic does in its lax mode.  Documents are written by people, so
  numbers and flags are accepted in more than one spelling: a truth value counts as 0 or 1, a number with
  a point as the whole number it is worth, a text as the number it spells, and the usual words as flags.
  Texts are taken only from texts.
-/
import TreeLint.Data.Reading
import TreeLint.Text.Blank

namespace TreeLint.Data

/-! ### Whole numbers spelled out -/

/-- The most characters, sign and digits, that pydantic reads as a number. -/
def spellingLimit : Nat := 4300

/-- The text without zeros in front of a digit that is not 0, of a minus sign, of a point, or of a last
zero.  Underscores between those zeros go with them.  A text that begins or goes on otherwise spells
nothing. -/
def withoutZeros? (cs : List Char) : Option (List Char) :=
  let zeros := if cs.head? = some '0' then cs.takeWhile fun c => c == '0' || c == '_' else []
  let rest := cs.drop zeros.length
  let last := zeros.drop (zeros.length - 1)
  match rest with
  | [] => if zeros.isEmpty then none else some last
  | c :: _ =>
    if c.isDigit || c == '-' then some rest
    else if c = '.' && !zeros.isEmpty then some (last ++ rest)
    else none

/-- The text without a point and the zeros after it at its end. -/
def withoutZeroTail (cs : List Char) : List Char :=
  match cs.dropWhile (· != '.') with
  | _ :: zeros =>
    if !zeros.isEmpty && zeros.all (· == '0') then cs.takeWhile (· != '.') else cs
  | [] => cs

/-- The number that a minus sign, if there is one, and digits spell.  More than one digit must not begin
with 0, and a spelling that is too long is refused whatever follows it. -/
def plainInteger (cs : List Char) : Except Fault Int :=
  let negative := cs.head? = some '-'
  let body := if negative then cs.drop 1 else cs
  let digits := body.takeWhile Char.isDigit
  if digits.isEmpty || (digits.head? = some '0' && digits.length != 1) then
    .error .integerUnreadable
  else if spellingLimit < digits.length + (if negative then 1 else 0) then .error .integerTooLarge
  else if digits.length != body.length then .error .integerUnreadable
  else
    let n : Int := (digits.foldl (fun n c => n * 10 + (c.toNat - 0x30)) 0 : Nat)
    .ok (if negative then -n else n)

def hasDoubleUnderscore : List Char → Bool
  | '_' :: '_' :: _ => true
  | _ :: rest => hasDoubleUnderscore rest
  | [] => false

/-- The text without its underscores, which have to be single and not at an end. -/
def withoutUnderscores? (cs : List Char) : Option (List Char) :=
  if cs.head? = some '_' || cs.getLast? = some '_' || hasDoubleUnderscore cs then none
  else some (cs.filter (· != '_'))

def groupedInteger (cs : List Char) : Except Fault Int :=
  match withoutUnderscores? cs with
  | none => .error .integerUnreadable
  | some plain =>
    match plainInteger plain with
    | .ok n => .ok n
    | .error _ => .error .integerUnreadable

/-- The whole number that a text spells for pydantic: spacing around it, a sign, zeros in front, digits in
groups, and a point followed by zeros are allowed.  A minus sign may also stand between the zeros and the
digits. -/
def integerOfText (s : String) : Except Fault Int :=
  let cs := Text.dropEnds Text.isSpacing s.toList
  let positive := cs.head? = some '+'
  let negative := cs.head? = some '-'
  let unsigned := if positive || negative then cs.drop 1 else cs
  if positive && unsigned.head? = some '-' then .error .integerUnreadable
  else match withoutZeros? unsigned with
    | none => .error .integerUnreadable
    | some bare =>
      let digits := (if negative then ['-'] else []) ++ withoutZeroTail bare
      match plainInteger digits with
      | .error .integerUnreadable => groupedInteger digits
      | outcome => outcome

def ofOutcome {α : Type} : Except Fault α → Reading α
  | .ok a => .value a
  | .error f => Reading.fault f

/-- Two to the power of 63, the bound of the whole numbers that fit into a word. -/
def wordBound : Int := 0x8000000000000000

/-- The whole numbers that pydantic lets a number with a point stand for. -/
def isWordSized (n : Int) : Bool := decide (-wordBound < n ∧ n < wordBound)

/-- The whole number that a number with a point stands for. -/
def integerOfNumber (x : Number) : Except Fault Int :=
  if x.isFinite then
    match x.whole? with
    | some n => if isWordSized n then .ok n else .error .integerTooLarge
    | none => .error .integerFraction
  else .error .integerInfinite

def readInteger : Value → Reading Int
  | .int n => .value n
  | .bool b => .value (if b then 1 else 0)
  | .real x => ofOutcome (integerOfNumber x)
  | .text s => ofOutcome (integerOfText s)
  | _ => Reading.fault .integerExpected

def readPositive (v : Value) : Reading Nat :=
  match readInteger v with
  | .value n => if 1 ≤ n then .value n.toNat else Reading.fault .integerBelowOne
  | .problems ps => .problems ps

/-! ### Flags -/

/-- The flag that a word means by pydantic's list, in any case of its letters. -/
def flagOfWord? (s : String) : Option Bool :=
  let word := s.map Char.toLower
  if ["0", "off", "f", "false", "n", "no"].contains word then some false
  else if ["1", "on", "t", "true", "y", "yes"].contains word then some true
  else none

def flagOfInt? (n : Int) : Option Bool :=
  if n = 0 then some false else if n = 1 then some true else none

/-- A flag, or the fault that its number or word means none. -/
def orUnreadable : Option Bool → Reading Bool
  | some b => .value b
  | none => Reading.fault .flagUnreadable

def readFlag : Value → Reading Bool
  | .bool b => .value b
  | .int n =>
    if -wordBound ≤ n ∧ n < wordBound then orUnreadable (flagOfInt? n)
    else Reading.fault .flagExpected
  | .real x =>
    match integerOfNumber x with
    | .ok n => orUnreadable (flagOfInt? n)
    | .error _ => Reading.fault .flagExpected
  | .text s => orUnreadable (flagOfWord? s)
  | _ => Reading.fault .flagExpected

/-! ### Texts -/

def readText : Value → Reading String
  | .text s => .value s
  | _ => Reading.fault .textExpected

def readName (v : Value) : Reading String :=
  match readText v with
  | .value s => if s.isEmpty then Reading.fault .textEmpty else .value s
  | .problems ps => .problems ps

theorem readName_text_eq_value_iff {s name : String} :
    readName (.text s) = .value name ↔ s.isEmpty = false ∧ s = name := by
  simp only [readName, readText]
  cases s.isEmpty <;> simp [Reading.fault]

def readAny (v : Value) : Reading Value := .value v

/-! ### Written forms -/

/-- A number, absent as null. -/
def dumpNat? : Option Nat → Value
  | none => .null
  | some n => .int n

end TreeLint.Data
