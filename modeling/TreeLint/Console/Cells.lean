/-
  TreeLint/Console/Cells.lean
  ===========================
  **How wide text is on a terminal**, as rich measures it.  The width of a text is the sum of the widths
  of its characters, but for two of them: a joiner draws the character after it into the cells of what
  stands before it, and the emoji selector may widen the character before it.

  A text is cut between clusters, never inside one.  A cluster is a character that takes cells with
  everything after it that takes none of its own.  Where a cluster of two cells would be cut in half, a
  space stands in its place.
-/
import TreeLint.Console.CharWidth

namespace TreeLint.Console

/-! ### The width of a text -/

def joiner : Char := Char.ofNat 0x200D

def emojiSelector : Char := Char.ofNat 0xFE0F

/-- The cells that an emoji selector adds after the last character that took cells. -/
def selectorWidth : Option Char → Nat
  | some c => emojiWidth c
  | none => 0

/-- The number of cells of the rest of a text.  `joined` tells whether a joiner stands right before it,
and `last` is the last character that took cells and has met no selector. -/
def widthFrom : Bool → Option Char → List Char → Nat
  | _, _, [] => 0
  | true, last, _ :: cs => widthFrom false last cs
  | false, last, c :: cs =>
    if c = joiner then widthFrom true last cs
    else if c = emojiSelector then selectorWidth last + widthFrom false none cs
    else if charWidth c = 0 then widthFrom false last cs
    else charWidth c + widthFrom false (some c) cs

def width (cs : List Char) : Nat := widthFrom false none cs

def totalCells (cells : List Nat) : Nat := cells.foldr (· + ·) 0

/-! ### Clusters -/

/-- Characters that are not to be parted, and the cells that they take together. -/
structure Cluster where
  chars : List Char
  cells : Nat
  deriving DecidableEq, Repr

/-- A cluster with one more character; without a cluster, the character is one of its own. -/
def Cluster.attach (cluster : Option Cluster) (c : Char) (cells : Nat) : Cluster :=
  match cluster with
  | some k => ⟨k.chars ++ [c], k.cells + cells⟩
  | none => ⟨[c], cells⟩

/-- The clusters of the rest of a text, after the open one.  `joined` tells whether a joiner ends the open
cluster, and `last` is as in `widthFrom`. -/
def clustersFrom : Option Cluster → Bool → Option Char → List Char → List Cluster
  | open?, _, _, [] => open?.toList
  | open?, true, last, c :: cs => clustersFrom (some (Cluster.attach open? c 0)) false last cs
  | open?, false, last, c :: cs =>
    if c = joiner then clustersFrom (some (Cluster.attach open? c 0)) open?.isSome last cs
    else if c = emojiSelector then
      let added := if open?.isSome then selectorWidth last else 0
      clustersFrom (some (Cluster.attach open? c added)) false (if added = 0 then last else none) cs
    else if charWidth c = 0 then clustersFrom (some (Cluster.attach open? c 0)) false last cs
    else open?.toList ++ clustersFrom (some ⟨[c], charWidth c⟩) false (some c) cs

def clusters (cs : List Char) : List Cluster := clustersFrom none false none cs

/-! ### Cutting -/

/-- Why a text cannot be cut: it takes more cells than the cut leaves, but its clusters take fewer, or
none at all. -/
inductive CutError where
  | beyondEnd
  | noCells
  deriving DecidableEq, Repr

def CutError.message : CutError → String
  | .beyondEnd => "list index out of range"
  | .noCells => "division by zero"

def spaces (n : Nat) : List Char := List.replicate n ' '

/-- The clusters that fit into a number of cells, and a space for one that fits in part.  Where no cell
is left, not even a cluster without cells is taken. -/
def takeCells : Nat → List Cluster → List Char
  | 0, _ => []
  | _, [] => []
  | n + 1, k :: ks => if k.cells ≤ n + 1 then k.chars ++ takeCells (n + 1 - k.cells) ks else [' ']

def crop (n : Nat) (cs : List Char) : Except CutError (List Char) :=
  if width cs ≤ n then .ok cs
  else if n = 0 then .ok []
  else
    let ks := clusters cs
    let total := totalCells (ks.map (·.cells))
    if total = 0 then .error .noCells
    else if total < n then .error .beyondEnd
    else .ok (takeCells n ks)

/-- The text in the middle of a number of cells, the smaller half of the rest before it. -/
def centre (fill : Char) (n : Nat) (cs : List Char) : List Char :=
  let rest := n - width cs
  List.replicate (rest / 2) fill ++ cs ++ List.replicate (rest - rest / 2) fill

/-! ### Lines in runs -/

/-- A line of a console: runs that are drawn side by side, each of which is measured on its own. -/
abbrev Line := List (List Char)

def Line.width (line : Line) : Nat := totalCells (line.map Console.width)

/-- The runs of a line up to a number of cells, of which `used` are taken already.  Nothing is kept after
the run that reaches the end. -/
def Line.cropFrom (n : Nat) : Nat → Line → Except CutError Line
  | _, [] => .ok []
  | used, run :: rest =>
    if used + Console.width run < n then do
      let others ← cropFrom n (used + Console.width run) rest
      pure (run :: others)
    else do
      let last ← crop (n - used) run
      pure [last]

def Line.crop (n : Nat) (line : Line) : Except CutError Line :=
  if line.width ≤ n then .ok line else line.cropFrom n 0

def Line.fill (n : Nat) (line : Line) : Except CutError Line :=
  if line.width < n then .ok (line ++ [spaces (n - line.width)]) else line.crop n

end TreeLint.Console
