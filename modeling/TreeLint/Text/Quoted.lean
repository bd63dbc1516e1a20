/-
  TreeLint/Text/Quoted.lean
  =========================
  **Texts in quotes.**  Messages quote names, paths and replacements so that a reader sees every
  character.  The mark is the apostrophe, and the double quote only for a text that holds an apostrophe
  and no double quote.  The backslash and the mark itself are escaped by a backslash, line feed,
  carriage return and tab by their letters, and any other unprintable character by its code point in
  hexadecimal: two digits below U+0100, four below U+10000, eight above.
-/
import TreeLint.Text.Printable

namespace TreeLint.Text

/-! ### Hexadecimal digits -/

def hexDigit (d : Nat) : Char :=
  if d < 10 then Char.ofNat (0x30 + d) else Char.ofNat (0x57 + d)

/-- The last `width` hexadecimal digits of a number, most significant first. -/
def hexDigits : Nat → Nat → List Char
  | 0, _ => []
  | width + 1, n => hexDigit (n / Nat.pow 16 width % 16) :: hexDigits width n

/-! ### Quoting -/

def apostrophe : Char := Char.ofNat 0x27

/-- The double quote, for a text whose only quotes are apostrophes. -/
def doubleQuote : Char := Char.ofNat 0x22

def quoteMark (cs : List Char) : Char :=
  if cs.contains apostrophe && !cs.contains doubleQuote then doubleQuote else apostrophe

def escapeChar (mark c : Char) : List Char :=
  if c = mark ∨ c = '\\' then ['\\', c]
  else if c = '\n' then ['\\', 'n']
  else if c = '\r' then ['\\', 'r']
  else if c = '\t' then ['\\', 't']
  else if isPrintable c then [c]
  else if c.toNat < 0x100 then '\\' :: 'x' :: hexDigits 2 c.toNat
  else if c.toNat < 0x10000 then '\\' :: 'u' :: hexDigits 4 c.toNat
  else '\\' :: 'U' :: hexDigits 8 c.toNat

def quoteChars (cs : List Char) : List Char :=
  let mark := quoteMark cs
  mark :: (cs.flatMap (escapeChar mark) ++ [mark])

def quoted (s : String) : String := String.ofList (quoteChars s.toList)

end TreeLint.Text
