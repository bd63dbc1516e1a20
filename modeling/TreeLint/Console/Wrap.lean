/-
  TreeLint/Console/Wrap.lean
  ==========================
  **Fitting text into a number of cells**, as rich does it.  Text is broken at words, greedily: a word,
  which includes the blanks after it, goes on the current line if it fits there without those blanks.  A
  word that is wider than a whole line is folded over several lines, or, where an ellipsis is asked for,
  starts a line and is cut.  Line feeds always break, and tabs go on to the next multiple of eight cells.
-/
import TreeLint.Console.Styled
import TreeLint.Text.Blank

namespace TreeLint.Console

open Text

/-- What happens to a word that is wider than a line. -/
inductive Overflow where
  | fold
  | ellipsis
  deriving DecidableEq, Repr

/-- Where a line stands in the cells that it has; `ragged` lines are not filled up. -/
inductive Justify where
  | ragged
  | left
  | right
  | centre
  deriving DecidableEq, Repr

/-! ### Words -/

/-- The words of a line with the blanks after them; blanks before the first word belong to it.  A line
of blanks has no words. -/
def words (line : List Char) : List (List Char) :=
  match line.splitBy fun a b => !(isBlank a && !isBlank b) with
  | [] => []
  | [only] => if only.all isBlank then [] else [only]
  | first :: second :: rest =>
    if first.all isBlank then (first ++ second) :: rest else first :: second :: rest

/-- The clusters of a word in parts that fit.  `part` is the current part, which takes `used` cells; at
the end of the word it is left out if it takes none. -/
def chopFrom (limit : Nat) : List Char → Nat → List Cluster → List (List Char)
  | part, used, [] => if used = 0 then [] else [part]
  | part, used, k :: ks =>
    if limit < used + k.cells then part :: chopFrom limit k.chars k.cells ks
    else chopFrom limit (part ++ k.chars) (used + k.cells) ks

def chop (limit : Nat) (word : List Char) : List (List Char) := chopFrom limit [] 0 (clusters word)

/-! ### Breaks -/

/-- A break before an offset; there is none before the first character. -/
def breakAt (offset : Nat) : List Nat := if offset = 0 then [] else [offset]

/-- A break before each of several parts, the first of which starts at an offset. -/
def breaksBefore : Nat → List (List Char) → List Nat
  | _, [] => []
  | offset, part :: rest => breakAt offset ++ breaksBefore (offset + part.length) rest

/-- The offsets before which a line is broken.  The next word starts at `offset`, and `used` cells of
the current line are taken. -/
def breaks (limit : Nat) (overflow : Overflow) : Nat → Nat → List (List Char) → List Nat
  | _, _, [] => []
  | offset, used, word :: rest =>
    let next := offset + word.length
    let needed := width (trimEnd word)
    if used + needed ≤ limit then breaks limit overflow next (used + width word) rest
    else if limit < needed then
      match overflow with
      | .fold =>
        let parts := chop limit word
        breaksBefore offset parts
          ++ breaks limit overflow next ((parts.getLast?.map width).getD used) rest
      | .ellipsis => breakAt offset ++ breaks limit overflow next (width word) rest
    else if used = 0 ∨ offset = 0 then breaks limit overflow next used rest
    else offset :: breaks limit overflow next (width word) rest

/-! ### Lines -/

/-- A line without as many of its trailing blanks as it has characters too many. -/
def dropExcessBlanks (limit : Nat) (line : Styled) : Styled :=
  let length := line.chars.length
  let blanks := (line.chars.reverse.takeWhile isBlank).length
  line.setChars (line.chars.take (length - min blanks (length - limit)))

def truncate (limit : Nat) (overflow : Overflow) (line : Styled) : Except CutError Styled :=
  if width line.chars ≤ limit then .ok line
  else match overflow with
    | .fold => (crop limit line.chars).map line.setChars
    | .ellipsis => (crop (limit - 1) line.chars).map fun cs => line.setChars (cs ++ ['…'])

def place (limit : Nat) (overflow : Overflow) (line : Styled) : Justify → Except CutError Styled
  | .ragged => .ok line
  | .left => do
    let cut ← truncate limit overflow line
    pure { cut with chars := cut.chars ++ spaces (limit - width line.chars) }
  | .right => do
    let cut ← truncate limit overflow (line.setChars (trimEnd line.chars))
    pure (cut.indent (limit - width cut.chars))
  | .centre => do
    let cut ← truncate limit overflow (line.setChars (trimEnd line.chars))
    let moved := cut.indent ((limit - width cut.chars) / 2)
    pure { moved with chars := moved.chars ++ spaces (limit - width moved.chars) }

def wrapLine (limit : Nat) (overflow : Overflow) (justify : Justify) (line : Styled) :
    Except CutError (List Styled) :=
  let line := line.expandTabs
  let parts := line.divide (breaks limit overflow 0 0 (words line.chars))
  parts.mapM fun part => do
    let placed ← place limit overflow (dropExcessBlanks limit part) justify
    truncate limit overflow placed

def wrap (limit : Nat) (overflow : Overflow) (justify : Justify) (t : Styled) :
    Except CutError (List Styled) := do
  let wrapped ← t.lines.mapM (wrapLine limit overflow justify)
  pure wrapped.flatten

/-! ### Measuring -/

/-- The characters at which lines end when a text is measured. -/
def isLineEnd (c : Char) : Bool :=
  [0x0A, 0x0B, 0x0C, 0x0D, 0x1C, 0x1D, 0x1E, 0x85, 0x2028, 0x2029].contains c.toNat

def widest (cs : List Char) : Nat := ((divideWhere isLineEnd cs).map width).foldl max 0

end TreeLint.Console
