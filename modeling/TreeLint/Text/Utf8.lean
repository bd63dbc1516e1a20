/-
  TreeLint/Text/Utf8.lean
  =======================
  **UTF-8 with replacement.**  Source files are bytes and need not be valid UTF-8.  Decoding never
  fails: each maximal part of a sequence that cannot be continued becomes one U+FFFD, and the byte that
  broke it is looked at afresh.

  The decoder is a machine over the bytes.  It is idle, or it waits for more bytes of a sequence and
  knows how many, which value the bytes so far have, and between which bounds the next byte must lie.
  Only the first continuation byte has narrower bounds than 80 to BF; they shut out overlong forms,
  surrogates and values beyond U+10FFFF.
-/

namespace TreeLint.Text.Utf8

/-- What stands for a part that is not UTF-8. -/
def replacement : Char := Char.ofNat 0xFFFD

/-- A sequence that has begun: bytes still to come, value so far, bounds of the next byte. -/
structure Pending where
  missing : Nat
  value : Nat
  low : Nat
  high : Nat
  deriving DecidableEq, Repr

def Pending.ofLead? (b : Nat) : Option Pending :=
  if 0xC2 ≤ b ∧ b ≤ 0xDF then some ⟨1, b - 0xC0, 0x80, 0xBF⟩
  else if b = 0xE0 then some ⟨2, 0, 0xA0, 0xBF⟩
  else if b = 0xED then some ⟨2, 0xD, 0x80, 0x9F⟩
  else if 0xE1 ≤ b ∧ b ≤ 0xEF then some ⟨2, b - 0xE0, 0x80, 0xBF⟩
  else if b = 0xF0 then some ⟨3, 0, 0x90, 0xBF⟩
  else if 0xF1 ≤ b ∧ b ≤ 0xF3 then some ⟨3, b - 0xF0, 0x80, 0xBF⟩
  else if b = 0xF4 then some ⟨3, 4, 0x80, 0x8F⟩
  else none

/-- Characters produced by one byte, and the sequence that is open after it. -/
abbrev Step := List Char × Option Pending

/-- A byte read with no sequence open. -/
def fresh (b : Nat) : Step :=
  if b < 0x80 then ([Char.ofNat b], none)
  else match Pending.ofLead? b with
    | some p => ([], some p)
    | none => ([replacement], none)

/-- A byte read with a sequence open: it continues the sequence, or the part read so far is replaced
and the byte is read afresh. -/
def Pending.extend (p : Pending) (b : Nat) : Step :=
  if p.low ≤ b ∧ b ≤ p.high then
    let value := p.value * 0x40 + (b - 0x80)
    if p.missing ≤ 1 then ([Char.ofNat value], none)
    else ([], some ⟨p.missing - 1, value, 0x80, 0xBF⟩)
  else
    let (cs, open?) := fresh b
    (replacement :: cs, open?)

def decodeFrom : Option Pending → List UInt8 → List Char
  | none, [] => []
  | some _, [] => [replacement]
  | none, b :: rest =>
    let (cs, open?) := fresh b.toNat
    cs ++ decodeFrom open? rest
  | some p, b :: rest =>
    let (cs, open?) := p.extend b.toNat
    cs ++ decodeFrom open? rest

/-- The characters of a byte sequence, with replacement. -/
def decode (bytes : List UInt8) : List Char := decodeFrom none bytes

def decodeString (bytes : List UInt8) : String := String.ofList (decode bytes)

def encode (cs : List Char) : List UInt8 := cs.flatMap String.utf8EncodeChar

def encodeString (s : String) : List UInt8 := encode s.toList

end TreeLint.Text.Utf8
