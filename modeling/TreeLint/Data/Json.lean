/-
  TreeLint/Data/Json.lean
  =======================
  **Documents as JSON text.**  Objects keep the order of their entries; a key that occurs again changes
  its entry in place.  A number without point and exponent is a whole number of any size.  The words
  `Infinity` and `NaN` stand for numbers that have no digits.

  Reading is by recursive descent.  Every call is given a bound on the depth and breadth still to be
  read; the length of the text is always enough, because each call uses up a character.
-/
import TreeLint.Data.Value

namespace TreeLint.Data.Json

/-! ### Lexical parts -/

def isGap (c : Char) : Bool := c == ' ' || c == '\t' || c == '\n' || c == '\r'

def skipGap (cs : List Char) : List Char := cs.dropWhile isGap

def hexValue? (c : Char) : Option Nat :=
  if c.isDigit then some (c.toNat - 0x30)
  else if 'a' ≤ c ∧ c ≤ 'f' then some (c.toNat - 0x57)
  else if 'A' ≤ c ∧ c ≤ 'F' then some (c.toNat - 0x37)
  else none

def hex4? (a b c d : Char) : Option Nat := do
  let w ← hexValue? a
  let x ← hexValue? b
  let y ← hexValue? c
  let z ← hexValue? d
  pure (((w * 16 + x) * 16 + y) * 16 + z)

def simpleEscape? : Char → Option Char
  | '"' => some '"'
  | '\\' => some '\\'
  | '/' => some '/'
  | 'b' => some (Char.ofNat 8)
  | 'f' => some (Char.ofNat 12)
  | 'n' => some '\n'
  | 'r' => some '\r'
  | 't' => some '\t'
  | _ => none

/-- Joins a high and a low surrogate into the code point that they stand for. -/
def joinSurrogates? (high low : Nat) : Option Char :=
  if 0xD800 ≤ high ∧ high < 0xDC00 ∧ 0xDC00 ≤ low ∧ low < 0xE000 then
    some (Char.ofNat (0x10000 + (high - 0xD800) * 0x400 + (low - 0xDC00)))
  else none

/-- The rest of a quoted text up to its closing quote, after the characters read so far in reverse. -/
def textChars : List Char → List Char → Option (String × List Char)
  | _, [] => none
  | done, '"' :: rest => some (String.ofList done.reverse, rest)
  | done, '\\' :: 'u' :: a :: b :: c :: d :: '\\' :: 'u' :: e :: f :: g :: h :: rest =>
    match hex4? a b c d, hex4? e f g h with
    | some high, some low =>
      match joinSurrogates? high low with
      | some joined => textChars (joined :: done) rest
      | none => textChars (Char.ofNat high :: done) ('\\' :: 'u' :: e :: f :: g :: h :: rest)
    | _, _ => none
  | done, '\\' :: 'u' :: a :: b :: c :: d :: rest =>
    match hex4? a b c d with
    | some n => textChars (Char.ofNat n :: done) rest
    | none => none
  | done, '\\' :: e :: rest =>
    match simpleEscape? e with
    | some c => textChars (c :: done) rest
    | none => none
  | done, c :: rest => textChars (c :: done) rest
termination_by _ cs => cs.length

/-! ### Numbers -/

def digitsValue (cs : List Char) : Nat := cs.foldl (fun n c => n * 10 + (c.toNat - 0x30)) 0

def splitDigits (cs : List Char) : List Char × List Char := cs.span Char.isDigit

def exponent? : List Char → Option (Int × List Char)
  | [] => none
  | mark :: rest =>
    if mark = 'e' ∨ mark = 'E' then
      let (negative, unsigned) : Bool × List Char := match rest with
        | '-' :: cs => (true, cs)
        | '+' :: cs => (false, cs)
        | cs => (false, cs)
      let (digits, after) := splitDigits unsigned
      let n : Int := digitsValue digits
      some (if negative then -n else n, after)
    else none

/-- The places after a point and the text after them, if there is a point. -/
def places? : List Char → Option (List Char × List Char)
  | '.' :: rest => some (splitDigits rest)
  | _ => none

def afterWord? (word : List Char) (cs : List Char) : Option (List Char) :=
  if word.isPrefixOf cs then some (cs.drop word.length) else none

def infinityWord : String := "Infinity"

def undefinedWord : String := "NaN"

def digitNumber (negative : Bool) (cs : List Char) : Option (Value × List Char) :=
  let (whole, rest) := splitDigits cs
  if whole.isEmpty then none
  else
    let fraction := places? rest
    let (places, afterPlaces) := fraction.getD ([], rest)
    let scale := exponent? afterPlaces
    let (power, after) := scale.getD (0, afterPlaces)
    if fraction.isNone && scale.isNone then
      let n : Int := digitsValue whole
      some (.int (if negative then -n else n), after)
    else
      let digits := digitsValue (whole ++ places)
      some (.real (Number.ofDigits negative digits (power - places.length)), after)

def magnitude (negative : Bool) (cs : List Char) : Option (Value × List Char) :=
  match afterWord? infinityWord.toList cs with
  | some after => some (.real (.infinite negative), after)
  | none => digitNumber negative cs

/-! ### Values -/

mutual

def value : Nat → List Char → Option (Value × List Char)
  | 0, _ => none
  | bound + 1, cs =>
    match skipGap cs with
    | '\x7b' :: rest =>
      match skipGap rest with
      | '\x7d' :: after => some (.object [], after)
      | _ => (members bound [] rest).map fun (entries, after) => (.object entries, after)
    | '[' :: rest =>
      match skipGap rest with
      | ']' :: after => some (.list [], after)
      | _ => (elements bound rest).map fun (items, after) => (.list items, after)
    | '"' :: rest => (textChars [] rest).map fun (s, after) => (.text s, after)
    | '-' :: rest => magnitude true rest
    | 't' :: rest => (afterWord? "rue".toList rest).map fun after => (.bool true, after)
    | 'f' :: rest => (afterWord? "alse".toList rest).map fun after => (.bool false, after)
    | 'n' :: rest => (afterWord? "ull".toList rest).map fun after => (.null, after)
    | 'N' :: rest => (afterWord? "aN".toList rest).map fun after => (.real .undefined, after)
    | rest => magnitude false rest

def elements : Nat → List Char → Option (List Value × List Char)
  | 0, _ => none
  | bound + 1, cs => do
    let (item, rest) ← value bound cs
    match skipGap rest with
    | ',' :: more => (elements bound more).map fun (items, after) => (item :: items, after)
    | ']' :: after => some ([item], after)
    | _ => none

/-- The entries of an object up to its closing brace, added to those before them. -/
def members : Nat → Entries Value → List Char → Option (Entries Value × List Char)
  | 0, _, _ => none
  | bound + 1, done, cs =>
    match skipGap cs with
    | '"' :: rest => do
      let (key, rest) ← textChars [] rest
      match skipGap rest with
      | ':' :: rest => do
        let (item, rest) ← value bound rest
        let entries := Entries.set key item done
        match skipGap rest with
        | ',' :: more => members bound entries more
        | '\x7d' :: after => some (entries, after)
        | _ => none
      | _ => none
    | _ => none

end

/-- Reads a text that is one document and nothing else. -/
def read? (s : String) : Option Value := do
  let cs := s.toList
  let (v, rest) ← value (2 * cs.length + 2) cs
  if (skipGap rest).isEmpty then some v else none

/-! ### Writing -/

/-- A character that is escaped by its code: controls and the line ends beyond ASCII. -/
def isEscaped (c : Char) : Bool :=
  c.toNat < 0x20 || c.toNat == 0x85 || c.toNat == 0x2028 || c.toNat == 0x2029

def writeChar (c : Char) : List Char :=
  if c == '"' || c == '\\' then ['\\', c]
  else if isEscaped c then '\\' :: 'u' :: Text.hexDigits 4 c.toNat
  else [c]

def writeText (s : String) : String := String.ofList ('"' :: (s.toList.flatMap writeChar ++ ['"']))

mutual

def write : Value → String
  | .null => "null"
  | .bool b => if b then "true" else "false"
  | .int n => toString n
  | .real x => x.write infinityWord undefinedWord
  | .text s => writeText s
  | .list items => "[" ++ ",".intercalate (writeItems items) ++ "]"
  | .object entries => "\x7b" ++ ",".intercalate (writeEntries entries) ++ "\x7d"

def writeItems : List Value → List String
  | [] => []
  | v :: vs => write v :: writeItems vs

def writeEntries : List (String × Value) → List String
  | [] => []
  | (key, v) :: rest => (writeText key ++ ":" ++ write v) :: writeEntries rest

end

end TreeLint.Data.Json
