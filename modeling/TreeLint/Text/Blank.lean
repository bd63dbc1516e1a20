/-
  TreeLint/Text/Blank.lean
  ========================
  **Blank characters, trimming and dividing.**  Character properties (blanks, unprintable characters, cell
  widths) are tables of code point ranges.  A table is written in increasing order, so one scan from the
  left answers membership and stops at the first range that starts beyond the code point.

  Two classes of blanks are in use.  `isBlank` is the one that words of a text are separated by: the
  Unicode spaces and line ends together with the four information separators U+001C to U+001F.
  `isSpacing` is the Unicode property White_Space, which has no information separators; it is what may
  surround a number written as text.

  Trimming is by class, on lists of characters, and removes from the ends only.  A text can also be divided
  at characters: the parts are what stands before, between and after them, so there is one part more than
  there are such characters, and empty parts are kept.
-/

namespace TreeLint.Text

/-! ### Ranges of code points -/

/-- Code point ranges, both ends included, in increasing order and without overlap. -/
abbrev Ranges := List (Nat × Nat)

def Ranges.holds (n : Nat) : Ranges → Bool
  | [] => false
  | (first, last) :: rest =>
    if n < first then false
    else if n ≤ last then true
    else holds n rest

/-! ### The two classes -/

/-- Tab to carriage return, the information separators, the spaces and the line ends of Unicode. -/
def blankRanges : Ranges :=
  [(0x09, 0x0D), (0x1C, 0x20), (0x85, 0x85), (0xA0, 0xA0), (0x1680, 0x1680), (0x2000, 0x200A),
   (0x2028, 0x2029), (0x202F, 0x202F), (0x205F, 0x205F), (0x3000, 0x3000)]

/-- The property White_Space. -/
def spacingRanges : Ranges :=
  [(0x09, 0x0D), (0x20, 0x20), (0x85, 0x85), (0xA0, 0xA0), (0x1680, 0x1680), (0x2000, 0x200A),
   (0x2028, 0x2029), (0x202F, 0x202F), (0x205F, 0x205F), (0x3000, 0x3000)]

def isBlank (c : Char) : Bool := blankRanges.holds c.toNat

/-- A character that may stand around a number. -/
def isSpacing (c : Char) : Bool := spacingRanges.holds c.toNat

/-! ### Trimming -/

/-- The list without its longest trailing run of elements in the class. -/
def dropEndWhile {α : Type} (p : α → Bool) (xs : List α) : List α :=
  (xs.reverse.dropWhile p).reverse

/-- The list without its leading and trailing runs of elements in the class. -/
def dropEnds {α : Type} (p : α → Bool) (xs : List α) : List α :=
  dropEndWhile p (xs.dropWhile p)

def trim (cs : List Char) : List Char := dropEnds isBlank cs

def trimEnd (cs : List Char) : List Char := dropEndWhile isBlank cs

/-! ### Dividing -/

def divideWhere (isMark : Char → Bool) : List Char → List (List Char)
  | [] => [[]]
  | c :: cs =>
    if isMark c then [] :: divideWhere isMark cs
    else match divideWhere isMark cs with
      | [] => [[c]]
      | part :: parts => (c :: part) :: parts

def divide (mark : Char) (cs : List Char) : List (List Char) := divideWhere (· == mark) cs

end TreeLint.Text
