/-
  TreeLint/Literal/Quotation.lean
  ===============================
  **Quoted texts.**  In front of the first quote, letters may tell that a text is for bytes, that it is
  raw, or that it is formatted.  In a text that is not raw a backslash begins an escape, and some escapes
  have to be completed: by hexadecimal digits, or by the name of a character in braces.

  The positions in messages about texts count a character beyond ASCII as ten, and a backslash in front of
  one as six, since that is how many an escape for it has.
-/
import TreeLint.Literal.Cause
import TreeLint.Literal.Numeral
import TreeLint.Text.CharacterName

namespace TreeLint.Literal

open Text

/-- A quoted text: what the letters in front tell, and what stands between the quotes. -/
structure Quotation where
  bytes : Bool
  raw : Bool
  formatted : Bool
  body : List Char
  deriving DecidableEq, Repr

namespace Quotation

/-- What stands between the quotes, one or three on either side, of a text that begins with a quote. -/
def between (text : List Char) : List Char :=
  match text with
  | [] => []
  | mark :: rest =>
    let inner := rest.dropLast
    if 4 ≤ inner.length ∧ [mark, mark].isPrefixOf inner then (inner.drop 2).dropLast.dropLast else inner

def ofText (text : List Char) : Quotation :=
  let letters := (text.takeWhile fun c => c != apostrophe && c != doubleQuote).map Char.toLower
  ⟨letters.contains 'b', letters.contains 'r', letters.contains 'f', between (text.drop letters.length)⟩

/-! ### Positions -/

def isWide (c : Char) : Bool := 0x80 ≤ c.toNat

def width (c : Char) : Nat := if isWide c then 10 else 1

def positions : List Char → Nat
  | [] => 0
  | ['\\'] => 6
  | '\\' :: c :: rest => (if isWide c then 6 else 1) + width c + positions rest
  | c :: rest => width c + positions rest

/-! ### Escapes -/

/-- The digits that an escape needs, by its letter: how many, and how the whole escape is described. -/
def digitsNeeded? (c : Char) : Option (Nat × String) :=
  if c = 'x' then some (2, "xXX")
  else if c = 'u' then some (4, "uXXXX")
  else if c = 'U' then some (8, "UXXXXXXXX")
  else none

def digitsFault? (position needed : Nat) (form : String) (rest : List Char) : Option QuoteFault :=
  let digits := (rest.take needed).takeWhile fun c => (Numeral.digitOf? 16 c).isSome
  if digits.length < needed then
    some (.escape position (position + 1 + digits.length) (.truncated form))
  else if 0x10FFFF < Numeral.valueOf 16 digits then
    some (.escape position (position + 1 + needed) .illegal)
  else none

def nameFault? (position : Nat) (rest : List Char) : Option QuoteFault :=
  match rest with
  | '\x7b' :: body =>
    let name := body.takeWhile (· != '\x7d')
    if name.length == body.length then
      some (.escape position (position + 2 + positions name) .malformedName)
    else if name.isEmpty then some (.escape position (position + 2) .malformedName)
    else if isCharacterName name then none
    else some (.escape position (position + 2 + positions (name ++ ['\x7d'])) .unknownName)
  | _ => some (.escape position (position + 1) .malformedName)

def escapeFault? : Nat → List Char → Option QuoteFault
  | _, [] => none
  | _, ['\\'] => none
  | position, '\\' :: c :: rest =>
    let fault? :=
      if c = 'N' then nameFault? position rest
      else (digitsNeeded? c).bind fun (needed, form) => digitsFault? position needed form rest
    match fault? with
    | some fault => some fault
    | none => escapeFault? (position + positions ['\\', c]) rest
  | position, c :: rest => escapeFault? (position + width c) rest

/-- The first escape that is wrong in a text for bytes, from a position on. -/
def byteFault? : Nat → List Char → Option QuoteFault
  | position, '\\' :: c :: rest =>
    let digits := (rest.take 2).takeWhile fun d => (Numeral.digitOf? 16 d).isSome
    if c = 'x' ∧ digits.length < 2 then some (.byteEscape position)
    else byteFault? (position + 2) rest
  | position, _ :: rest => byteFault? (position + 1) rest
  | _, [] => none

def fault? (q : Quotation) : Option QuoteFault :=
  if q.bytes && q.body.any isWide then some .wideBytes
  else if q.raw then none
  else if q.bytes then byteFault? 0 q.body
  else escapeFault? 0 q.body

end Quotation

end TreeLint.Literal
