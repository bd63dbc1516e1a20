/-
  TreeLint/CommandLine/Similarity.lean
  ====================================
  **Names that look like a word.**  Two texts are alike when their common blocks make up at least six
  tenths of them.  The blocks are found by taking the longest common block, the earliest of several, and
  going on with what stands before it and after it in both texts.
-/

namespace TreeLint.CommandLine

def commonStart : List Char → List Char → Nat
  | a :: as, b :: bs => if a = b then commonStart as bs + 1 else 0
  | _, _ => 0

/-- A common block: where it starts in each text, and its length. -/
structure CommonBlock where
  left : Nat
  right : Nat
  length : Nat
  deriving DecidableEq, Repr

/-- The longer of two blocks, the first of equals. -/
def CommonBlock.longer (x y : CommonBlock) : CommonBlock := if x.length < y.length then y else x

/-- The longest common block of two texts, the earliest in the first and then in the second. -/
def longestBlock (as bs : List Char) : CommonBlock :=
  ((List.range as.length).flatMap fun i => (List.range bs.length).map fun j =>
    (⟨i, j, commonStart (as.drop i) (bs.drop j)⟩ : CommonBlock)).foldl CommonBlock.longer ⟨0, 0, 0⟩

/-- The characters in common blocks; each step removes at least one character of the first text, so its
length bounds the depth. -/
def commonChars : Nat → List Char → List Char → Nat
  | 0, _, _ => 0
  | depth + 1, as, bs =>
    let block := longestBlock as bs
    if block.length = 0 then 0
    else
      block.length + commonChars depth (as.take block.left) (bs.take block.right)
        + commonChars depth (as.drop (block.left + block.length))
            (bs.drop (block.right + block.length))

/-- How alike a name is to a word: characters in common blocks, and characters in all. -/
structure Likeness where
  name : String
  common : Nat
  total : Nat
  deriving DecidableEq, Repr

def Likeness.of (word name : String) : Likeness :=
  let as := name.toList
  let bs := word.toList
  ⟨name, commonChars as.length as bs, as.length + bs.length⟩

/-- At least six tenths in common. -/
def Likeness.isClose (l : Likeness) : Bool := decide (3 * l.total ≤ 10 * l.common)

/-- Whether the lengths of two texts let them be alike: no more can be in common than the shorter one
has. -/
def mayBeClose (word name : String) : Bool :=
  decide (3 * (name.length + word.length) ≤ 10 * min name.length word.length)

/-- Greater likeness, or the later name of two that are equally alike. -/
def Likeness.precedes (l m : Likeness) : Bool :=
  let x := l.common * m.total
  let y := m.common * l.total
  if x = y then decide (m.name ≤ l.name) else decide (y < x)

/-- The names that look like a word, the most alike first, three at most. -/
def closeMatches (word : String) (names : List String) : List String :=
  let likely := (names.filter (mayBeClose word)).map (Likeness.of word)
  (((likely.filter (·.isClose)).mergeSort Likeness.precedes).map (·.name)).take 3

end TreeLint.CommandLine
