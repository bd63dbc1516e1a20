/-
  TreeLint/Source.lean
  ====================
  **A source file as bytes.**  Offsets, columns and spans count bytes, whatever the text means.  Lines
  end with a line feed byte.  A file's line table holds the offset at which each line starts; a position
  is found by looking up the last line start that is not beyond an offset.
-/
import TreeLint.Text.Utf8

namespace TreeLint

structure Source where
  bytes : List UInt8
  deriving DecidableEq, Repr, Inhabited

/-- The byte offsets from `start` up to, and not including, `stop`. -/
structure Span where
  start : Nat
  stop : Nat
  deriving DecidableEq, Repr, Inhabited

/-- A line and a column, both counted from one. -/
structure Position where
  line : Nat
  column : Nat
  deriving DecidableEq, Repr, Inhabited

def lineFeed : UInt8 := 0x0A

/-- Space, tab, line feed, vertical tab, form feed and carriage return. -/
def isBlankByte (b : UInt8) : Bool := b == 0x20 || (0x09 ≤ b && b ≤ 0x0D)

/-- The offsets right after each line feed, where the first of the bytes stands at offset `i`. -/
def lineStartsFrom : Nat → List UInt8 → List Nat
  | _, [] => []
  | i, b :: rest =>
    if b = lineFeed then (i + 1) :: lineStartsFrom (i + 1) rest else lineStartsFrom (i + 1) rest

namespace Source

def ofString (s : String) : Source := ⟨Text.Utf8.encodeString s⟩

def size (s : Source) : Nat := s.bytes.length

/-- The bytes of a span; a span whose start is not before its stop has none. -/
def slice (s : Source) (span : Span) : List UInt8 :=
  (s.bytes.drop span.start).take (span.stop - span.start)

/-- The text of a span, with replacement where it is not UTF-8. -/
def text (s : Source) (span : Span) : String := Text.Utf8.decodeString (s.slice span)

/-! ### Lines -/

/-- The offset at which each line starts; the first line starts at 0. -/
def lineStarts (s : Source) : List Nat := 0 :: lineStartsFrom 0 s.bytes

/-- The number of lines: a final line feed ends the last line and starts no other, and an empty file
has no line. -/
def lineCount (s : Source) : Nat :=
  if s.bytes.isEmpty then 0
  else if s.bytes.getLast? = some lineFeed then s.lineStarts.length - 1
  else s.lineStarts.length

/-- The nearest offset inside the file. -/
def clamp (s : Source) (offset : Int) : Nat := (min offset s.size).toNat

/-- The position of an offset; offsets outside the file count as its nearest end. -/
def position (s : Source) (offset : Int) : Position :=
  let o := s.clamp offset
  let reached := s.lineStarts.takeWhile (· ≤ o)
  ⟨reached.length, o - reached.getLast?.getD 0 + 1⟩

/-- The offset of a position: the start of its line and the columns before it. -/
def offset? (s : Source) (p : Position) : Option Nat :=
  s.lineStarts[p.line - 1]?.map (· + (p.column - 1))

end Source

end TreeLint
