/-
  TreeLint/Console/Styled.lean
  ============================
  **Text with styles**, as rich keeps it.  Styles are not drawn, but a text keeps the spans that they
  cover, for two reasons: a span begins and ends a run, which is measured on its own; and a style with a
  colour that cannot be worked out makes drawing fail, unless its span has been lost before.  Spans
  without characters are lost when a text is divided, and spans behind the end when it is cut.
-/
import TreeLint.Console.Cells
import TreeLint.Console.Style
import TreeLint.Text.Blank

namespace TreeLint.Console

open Text

/-- What a style covers, from an offset up to another, and the colour in it that cannot be worked out. -/
structure Span where
  start : Nat
  stop : Nat
  fault : Option Style.ColourError := none
  deriving DecidableEq, Repr

structure Styled where
  chars : List Char
  spans : List Span := []
  deriving DecidableEq, Repr

/-- A text divided before the given offsets; its first character is at offset `start`. -/
def divideAt (start : Nat) : List Nat → List Char → List (List Char)
  | [], cs => [cs]
  | offset :: rest, cs =>
    cs.take (offset - start) :: divideAt offset rest (cs.drop (offset - start))

namespace Styled

/-! ### Spans -/

/-- The part of a span between two offsets, counted from the first of them. -/
def clip? (start stop : Nat) (s : Span) : Option Span :=
  let first := max s.start start - start
  let last := min s.stop stop - start
  if first < last then some { s with start := first, stop := last } else none

def trimSpans (length : Nat) (spans : List Span) : List Span :=
  (spans.filter (·.start < length)).map fun s => { s with stop := min s.stop length }

def shiftSpans (distance : Nat) (spans : List Span) : List Span :=
  spans.map fun s => { s with start := s.start + distance, stop := s.stop + distance }

/-! ### Dividing and joining -/

/-- Parts of a text with the spans in them; the first part starts at an offset. -/
def withSpans (spans : List Span) : Nat → List (List Char) → List Styled
  | _, [] => []
  | start, part :: rest =>
    ⟨part, spans.filterMap (clip? start (start + part.length))⟩
      :: withSpans spans (start + part.length) rest

/-- A text divided before offsets.  Without offsets it stays as it is. -/
def divide (offsets : List Nat) (t : Styled) : List Styled :=
  if offsets.isEmpty then [t] else withSpans t.spans 0 (divideAt 0 offsets t.chars)

def offsetsOf (mark : Char) : Nat → List Char → List Nat
  | _, [] => []
  | offset, c :: cs =>
    if c = mark then offset :: offsetsOf mark (offset + 1) cs else offsetsOf mark (offset + 1) cs

def lines (t : Styled) : List Styled :=
  let feeds := offsetsOf '\n' 0 t.chars
  if feeds.isEmpty then [t]
  else (t.divide (feeds.flatMap fun i => [i, i + 1])).filter (·.chars != ['\n'])

/-- Texts one after the other; the first starts at an offset. -/
def joinFrom : Nat → List Styled → Styled
  | _, [] => ⟨[], []⟩
  | offset, t :: rest =>
    let others := joinFrom (offset + t.chars.length) rest
    ⟨t.chars ++ others.chars, shiftSpans offset t.spans ++ others.spans⟩

/-! ### Changing the text -/

def setChars (cs : List Char) (t : Styled) : Styled :=
  ⟨cs, if cs.length < t.chars.length then trimSpans cs.length t.spans else t.spans⟩

/-- Spaces added at the end; the spans that reach the end cover them too. -/
def extend (count : Nat) (t : Styled) : Styled :=
  ⟨t.chars ++ spaces count,
   t.spans.map fun s => if t.chars.length ≤ s.stop then { s with stop := s.stop + count } else s⟩

def indent (count : Nat) (t : Styled) : Styled := ⟨spaces count ++ t.chars, shiftSpans count t.spans⟩

def tabWidth : Nat := 8

/-- The parts of a line, each but the last of which ends with a tab, with spaces in place of the tabs;
`column` cells stand before the first. -/
def expandParts : Nat → List Styled → List Styled
  | _, [] => []
  | column, part :: rest =>
    if part.chars.getLast? = some '\t' then
      let spaced := part.setChars (part.chars.dropLast ++ [' '])
      let reached := column + width spaced.chars
      let gap := (tabWidth - reached % tabWidth) % tabWidth
      spaced.extend gap :: expandParts (reached + gap) rest
    else part :: expandParts (column + width part.chars) rest

def expandTabs (t : Styled) : Styled :=
  let tabs := offsetsOf '\t' 0 t.chars
  if tabs.isEmpty then t else joinFrom 0 (expandParts 0 (t.divide (tabs.map (· + 1))))

/-! ### Runs -/

/-- Numbers in increasing order, without one that equals the one before it. -/
def distinct : List Nat → List Nat
  | a :: b :: rest => if a = b then distinct (b :: rest) else a :: distinct (b :: rest)
  | few => few

def runs (t : Styled) : Line :=
  let edges := (t.spans.flatMap fun s => [s.start, s.stop]).filter fun i =>
    0 < i && i < t.chars.length
  if t.chars.isEmpty then []
  else divideAt 0 (distinct (edges.mergeSort (· ≤ ·))) t.chars

end Styled

end TreeLint.Console
