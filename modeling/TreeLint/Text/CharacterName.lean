/-
  TreeLint/Text/CharacterName.lean
  ================================
  **Names of characters.**  Every character of Unicode 14 that has a name can be called by it, and some can
  be called by other names too.  The syllables of Hangul are named by their sounds, and the unified
  ideographs by their code points; these names are made up by rule.  All others are in tables.

  The tables are in alphabetical order, by the first letter.  Of every name they hold how many characters it
  has in common with the one before it, as a small letter from `a` for none, where a plus sign in front adds
  twenty-six, and the characters that follow.
-/
import TreeLint.Text.Blank
import TreeLint.Text.CharacterName.AToB
import TreeLint.Text.CharacterName.CToG
import TreeLint.Text.CharacterName.HToL
import TreeLint.Text.CharacterName.MToR
import TreeLint.Text.CharacterName.SToZ

namespace TreeLint.Text

namespace CharacterName

/-! ### Names in tables -/

def tableOf (letter : Char) : List String :=
  match letter with
  | 'A' => namesA
  | 'B' => namesB
  | 'C' => namesC
  | 'D' => namesD
  | 'E' => namesE
  | 'F' => namesF
  | 'G' => namesG
  | 'H' => namesH
  | 'I' => namesI
  | 'J' => namesJ
  | 'K' => namesK
  | 'L' => namesL
  | 'M' => namesM
  | 'N' => namesN
  | 'O' => namesO
  | 'P' => namesP
  | 'Q' => namesQ
  | 'R' => namesR
  | 'S' => namesS
  | 'T' => namesT
  | 'U' => namesU
  | 'V' => namesV
  | 'W' => namesW
  | 'X' => namesX
  | 'Y' => namesY
  | 'Z' => namesZ
  | _ => []

/-- Whether a table holds a name, given the name in front of the rest of the table.  Every name takes a
character of the table, so its length is enough for the bound. -/
def holds (name : List Char) : Nat → List Char → List Char → Bool
  | 0, _, _ => false
  | bound + 1, before, table =>
    let plus := table.takeWhile (· == '+')
    match table.drop plus.length with
    | [] => false
    | letter :: rest =>
      let shared := 26 * plus.length + (letter.toNat - 'a'.toNat)
      let added := rest.takeWhile fun c => c != '+' && !c.isLower
      let current := before.take shared ++ added
      current == name || holds name bound current (rest.drop added.length)

def isListed (name : List Char) : Bool :=
  match name with
  | [] => false
  | letter :: _ =>
    let table := (tableOf letter).flatMap String.toList
    holds name table.length [] table

/-! ### Names by rule -/

def initials : List (List Char) :=
  ["G", "GG", "N", "D", "DD", "R", "M", "B", "BB", "S", "SS", "", "J", "JJ", "C", "K", "T", "P", "H"].map
    String.toList

def vowels : List (List Char) :=
  ["A", "AE", "YA", "YAE", "EO", "E", "YEO", "YE", "O", "WA", "WAE", "OE", "YO", "U", "WEO", "WE", "WI",
   "YU", "EU", "YI", "I"].map String.toList

def finals : List (List Char) :=
  ["", "G", "GG", "GS", "N", "NJ", "NH", "D", "L", "LG", "LM", "LB", "LS", "LT", "LP", "LH", "M", "B", "BS",
   "S", "SS", "NG", "J", "C", "K", "T", "P", "H"].map String.toList

def afterSound? (sounds : List (List Char)) (cs : List Char) : Option (List Char) :=
  ((sounds.filter (·.isPrefixOf cs)).map List.length).max?.map cs.drop

def isSyllable (cs : List Char) : Bool :=
  ((afterSound? initials cs).bind (afterSound? vowels)).bind (afterSound? finals) = some []

def ideographRanges : Ranges :=
  [(0x3400, 0x4DBF), (0x4E00, 0x9FFF), (0x20000, 0x2A6DF), (0x2A700, 0x2B738), (0x2B740, 0x2B81D),
   (0x2B820, 0x2CEA1), (0x2CEB0, 0x2EBE0), (0x30000, 0x3134A)]

def hexValue? (c : Char) : Option Nat :=
  if c.isDigit then some (c.toNat - '0'.toNat)
  else if 'A' ≤ c ∧ c ≤ 'F' then some (c.toNat - 'A'.toNat + 10)
  else none

/-- Whether a text is the code point of a unified ideograph, in four or five digits. -/
def isIdeograph (cs : List Char) : Bool :=
  match cs.mapM hexValue? with
  | some digits =>
    (cs.length == 4 || cs.length == 5) && ideographRanges.holds (digits.foldl (fun n d => 16 * n + d) 0)
  | none => false

def syllableStart : List Char := "HANGUL SYLLABLE ".toList

def ideographStart : List Char := "CJK UNIFIED IDEOGRAPH-".toList

end CharacterName

open CharacterName in
/-- Whether a text is the name of a character.  Names by rule are in capital letters; in all others small
letters stand for capital ones. -/
def isCharacterName (name : List Char) : Bool :=
  if syllableStart.isPrefixOf name then isSyllable (name.drop syllableStart.length)
  else if ideographStart.isPrefixOf name then isIdeograph (name.drop ideographStart.length)
  else isListed (name.map Char.toUpper)

end TreeLint.Text
