/-
  TreeLint/Literal/Scan.lean
  ==========================
  **Dividing a text into tokens.**  A cursor moves over the text and counts lines.  Whoever looks for the
  end of a token looks at the character behind it too, and a line counts from when its first character has
  been looked at.

  Outside of brackets the ends of lines are tokens, and a line that begins further right or further left
  than the one before it has a mark for that in front.  Blank lines, comments, and the ends of lines inside
  brackets leave nothing behind.
-/
import TreeLint.Literal.Numeral
import TreeLint.Literal.Token
import TreeLint.Text.Name

namespace TreeLint.Literal

open Text

/-! ### The cursor -/

/-- A place in a text: what follows, the line of the last character that has been looked at, whether the
next character begins a line that has not been counted, and whether the end has been looked at. -/
structure Cursor where
  rest : List Char
  line : Nat
  fresh : Bool
  ended : Bool
  deriving DecidableEq, Repr

namespace Cursor

/-- The cursor after a look at the next character. -/
def look (c : Cursor) : Cursor :=
  if c.rest.isEmpty then { c with ended := true }
  else if c.fresh then { c with line := c.line + 1, fresh := false }
  else c

def step (c : Cursor) : Cursor :=
  let c := c.look
  match c.rest with
  | [] => c
  | x :: rest => { c with rest := rest, fresh := x == '\n' }

def skip : Nat → Cursor → Cursor
  | 0, c => c
  | n + 1, c => skip n c.step

end Cursor

/-! ### Words -/

/-- The words that may stand right before a quote. -/
def quoteWords : List (List Char) :=
  ["r", "b", "u", "f", "br", "rb", "fr", "rf"].map String.toList

def isQuote (c : Char) : Bool := c == apostrophe || c == doubleQuote

/-- The number of characters that stand before the quote at the beginning of a text, if it begins with a
quoted text. -/
def quoteOffset? (cs : List Char) : Option Nat :=
  if cs.head?.any isQuote then some 0
  else
    (quoteWords.find? fun word =>
      (cs.take word.length).map Char.toLower == word && (cs.drop word.length).head?.any isQuote).map
        List.length

def strange (c : Char) : TokenFault := if isPrintable c then .unknown c else .unprintable c

def strangeIn? (cs : List Char) : Option TokenFault :=
  match cs with
  | [] => none
  | c :: rest =>
    if isNameStart c then (rest.find? fun d => !isNameChar d).map strange else some (strange c)

/-! ### Quoted texts -/

/-- The cursor behind the closing quotes of a quoted text.  `left` is how many of them are still to
come, `size` how many there are, and `bound` is at least the length of the text. -/
def afterQuotes (mark : Char) (size : Nat) : Nat → Nat → Cursor → Except TokenFault Cursor
  | _, 0, c => .ok c
  | 0, _, c => .error (.openQuote (size == 3) c.line)
  | bound + 1, left + 1, c =>
    let c := c.look
    match c.rest with
    | [] => .error (.openQuote (size == 3) c.line)
    | x :: _ =>
      if x = '\n' ∧ size = 1 then .error (.openQuote false c.line)
      else if x = mark then afterQuotes mark size bound left c.step
      else afterQuotes mark size bound size (if x = '\\' then c.step.step else c.step)

def afterQuoted (mark : Char) (c : Cursor) : Except TokenFault Cursor :=
  let body := c.step
  let bound := body.rest.length + 1
  if [mark, mark].isPrefixOf body.rest then afterQuotes mark 3 bound 3 (body.skip 2)
  else if [mark].isPrefixOf body.rest then .ok (body.step.look)
  else afterQuotes mark 1 bound 1 body

/-! ### Signs -/

def longSigns : List (List Char) :=
  ["!=", "%=", "&=", "**", "*=", "+=", "-=", "->", "//", "/=", ":=", "<<", "<=", "<>", "==", ">=", ">>",
   "@=", "^=", "|="].map String.toList

/-- The signs of three characters, which begin with signs of two. -/
def longestSigns : List (List Char) := ["**=", "//=", "<<=", ">>="].map String.toList

def shortSigns : List Char := "%&()*+,-./:;<=>@[]^\x7b|\x7d~".toList

def closingOf (opening : Char) : Char :=
  if opening = '(' then ')' else if opening = '[' then ']' else '\x7d'

def mostBrackets : Nat := 200

/-! ### Lines -/

/-- The blanks at the beginning of a line: how many characters they are, the column after them, the
column if a tab counts as one, and the column of the first backslash among them. -/
structure Margin where
  size : Nat
  column : Nat
  narrow : Nat
  broken : Nat
  deriving DecidableEq, Repr

/-- The blanks at the beginning of a line, after some of them.  A backslash joins the next line. -/
def Margin.extend (m : Margin) : List Char → Except TokenFault Margin
  | ' ' :: rest => extend ⟨m.size + 1, m.column + 1, m.narrow + 1, m.broken⟩ rest
  | '\t' :: rest => extend ⟨m.size + 1, (m.column / 8 + 1) * 8, m.narrow + 1, m.broken⟩ rest
  | '\x0c' :: rest => extend ⟨m.size + 1, 0, 0, m.broken⟩ rest
  | '\\' :: '\n' :: [] => .error .endOfText
  | '\\' :: '\n' :: rest =>
    extend ⟨m.size + 2, m.column, m.narrow, if m.broken = 0 then m.column else m.broken⟩ rest
  | '\\' :: _ => .error .strayBackslash
  | _ => .ok m

def mostIndents : Nat := 100

/-- The columns where the deeper lines begin, the innermost first, as they are and with tabs counting as
one. -/
abbrev Indents := List (Nat × Nat)

def Indents.top (indents : Indents) : Nat × Nat := indents.headD (0, 0)

/-- The columns after a line that begins at a column, and the marks in front of it. -/
def Indents.enter (indents : Indents) (column narrow : Nat) :
    Except TokenFault (Indents × List Kind) :=
  let (top, narrowTop) := indents.top
  if column = top then
    if narrow = narrowTop then .ok (indents, []) else .error .mixedIndent
  else if top < column then
    if mostIndents ≤ indents.length + 1 then .error .tooManyIndents
    else if narrow ≤ narrowTop then .error .mixedIndent
    else .ok ((column, narrow) :: indents, [.indent])
  else
    let outer : Indents := indents.dropWhile (column < ·.1)
    if column ≠ outer.top.1 then .error .unevenUnindent
    else if narrow ≠ outer.top.2 then .error .mixedIndent
    else .ok (outer, List.replicate (indents.length - outer.length) .unindent)

/-! ### Tokens -/

/-- The state between two tokens: the cursor, the open brackets with their lines, the innermost first, the
columns of deeper lines, and whether a line begins here. -/
structure Place where
  cursor : Cursor
  opened : List (Char × Nat)
  indents : Indents
  atStart : Bool
  deriving DecidableEq, Repr

def Place.start (line : Nat) (cs : List Char) : Place := ⟨⟨cs, line - 1, true, false⟩, [], [], true⟩

def Place.token (p : Place) (kind : Kind) : Token := ⟨kind, p.opened.length, p.cursor.line, p.cursor.ended⟩

abbrev Found := Except TokenFault (List Token × Place)

def Place.find (p : Place) (kind : Kind) (cursor : Cursor) : Found :=
  let next := { p with cursor := cursor }
  .ok ([next.token kind], next)

def Place.pass (p : Place) (cursor : Cursor) : Found := .ok ([], { p with cursor := cursor })

/-- The fault of a text that ends inside a bracket, or where more has to follow. -/
def Place.endFault (p : Place) : TokenFault :=
  match p.opened with
  | (opening, _) :: _ => .neverClosed opening
  | [] => .endOfText

def Cursor.afterComment (c : Cursor) : Cursor := (c.skip (c.rest.takeWhile (· != '\n')).length).look

/-- What stands at the beginning of a line: nothing, if the rest of the line is blank, and otherwise the
marks for a deeper or shallower line. -/
def Place.line (p : Place) : Found :=
  match Margin.extend ⟨0, 0, 0, 0⟩ p.cursor.rest with
  | .error fault => .error (if fault = .endOfText then p.endFault else fault)
  | .ok margin =>
    let cursor := (p.cursor.skip margin.size).look
    let inside := { p with cursor := cursor, atStart := false }
    if cursor.rest.head? = some '\n' then .ok ([], { p with cursor := cursor.step })
    else if cursor.rest.head? = some '#' then
      let cursor := cursor.afterComment
      if cursor.rest.isEmpty then inside.pass cursor else .ok ([], { p with cursor := cursor.step })
    else if !p.opened.isEmpty then .ok ([], inside)
    else do
      let (column, narrow) :=
        if margin.broken = 0 then (margin.column, margin.narrow) else (margin.broken, margin.broken)
      let (indents, marks) ← p.indents.enter column narrow
      let inside := { inside with indents := indents }
      pure (marks.map inside.token, inside)

def Place.word (p : Place) : Found :=
  let run := p.cursor.rest.takeWhile isRunChar
  let cursor := (p.cursor.skip run.length).look
  match if run.any (0x80 ≤ ·.toNat) then strangeIn? run else none with
  | some fault => .error fault
  | none => p.find (.word (String.ofList run)) cursor

/-- A number.  To know where it ends, words that may follow it are looked at as a whole. -/
def Place.number (p : Place) : Found := do
  let run := p.cursor.rest.takeWhile fun c => isRunChar c || c == '.' || c == '+' || c == '-'
  let text := run.take (run.length - (← Numeral.after run).length)
  let cursor := (p.cursor.skip text.length).look
  let cursor := { cursor with ended := cursor.ended || Numeral.wordsAfter.contains cursor.rest }
  p.find (.number text) cursor

/-- A quoted text, with so many characters before its first quote. -/
def Place.quoted (p : Place) (offset : Nat) : Found :=
  let mark := p.cursor.skip offset
  match mark.rest with
  | [] => .error .endOfText
  | quote :: _ => do
    let cursor ← afterQuoted quote mark
    let text := p.cursor.rest.take (p.cursor.rest.length - cursor.rest.length)
    let next := { p with cursor := cursor }
    pure ([{ next.token (.quoted text) with line := mark.look.line }], next)

def Place.open (p : Place) (opening : Char) (cursor : Cursor) : Found :=
  if mostBrackets ≤ p.opened.length then .error .tooManyBrackets
  else { p with opened := (opening, cursor.line) :: p.opened }.find (.sign opening.toString) cursor

def Place.close (p : Place) (closing : Char) (cursor : Cursor) : Found :=
  match p.opened with
  | [] => .error (.unmatched closing)
  | (opening, line) :: outer =>
    if closingOf opening = closing then
      { p with opened := outer }.find (.sign closing.toString) cursor
    else .error (.mismatched closing opening (if line = cursor.line then none else some line))

def Place.sign (p : Place) (c : Char) : Found :=
  let two := p.cursor.rest.take 2
  if longSigns.contains two then
    let three := p.cursor.rest.take 3
    let sign := if longestSigns.contains three then three else two
    let cursor := (p.cursor.skip sign.length)
    p.find (.sign (String.ofList sign)) (if sign.length = 2 then cursor.look else cursor)
  else
    let cursor := p.cursor.step.look
    if c = '(' ∨ c = '[' ∨ c = '\x7b' then p.open c cursor
    else if c = ')' ∨ c = ']' ∨ c = '\x7d' then p.close c cursor
    else if !isPrintable c then .error (.unprintable c)
    else if shortSigns.contains c then p.find (.sign c.toString) cursor
    else p.find .other cursor

def Place.point (p : Place) : Found :=
  let cursor := p.cursor.step.look
  match cursor.rest with
  | '.' :: '.' :: _ => p.find (.sign "...") (cursor.skip 2)
  | ['.'] => p.find (.sign ".") { cursor with ended := true }
  | c :: _ => if c.isDigit then p.number else p.find (.sign ".") cursor
  | [] => p.find (.sign ".") cursor

def Place.next (p : Place) : Found :=
  if p.atStart then p.line
  else
    let blanks := p.cursor.rest.takeWhile fun c => c == ' ' || c == '\t' || c == '\x0c'
    let cursor := (p.cursor.skip blanks.length).look
    let here := { p with cursor := cursor }
    match cursor.rest with
    | [] => if p.opened.isEmpty then here.find .ending cursor else .error here.endFault
    | c :: rest =>
      if c = '#' then here.pass cursor.afterComment
      else if c = '\n' then
        if p.opened.isEmpty then { here with atStart := true }.find .lineEnd cursor.step
        else { here with atStart := true }.pass cursor.step
      else if c = '\\' then
        match rest with
        | ['\n'] => .error here.endFault
        | '\n' :: _ => here.pass (cursor.skip 2).look
        | _ => .error .strayBackslash
      else match quoteOffset? cursor.rest with
        | some offset => here.quoted offset
        | none =>
          if c = '.' then here.point
          else if c.isDigit then here.number
          else if isRunChar c then here.word
          else here.sign c

/-- The tokens of a text, why they end early, if they do, and the bracket that is open there, with its
line. -/
structure Scan where
  tokens : Array Token
  fault : Option TokenFault
  opened : Option (Char × Nat)
  deriving DecidableEq, Repr

/-- The tokens from a place on, behind those that have been found, the latest first.  The text has at most
`bound` places. -/
def Place.scan : Nat → List Token → Place → Scan
  | 0, found, p => ⟨found.reverse.toArray, none, p.opened.head?⟩
  | bound + 1, found, p =>
    match p.next with
    | .error fault => ⟨found.reverse.toArray, some fault, p.opened.head?⟩
    | .ok (tokens, next) =>
      let found := tokens.reverse ++ found
      if tokens.any (·.kind = .ending) then ⟨found.reverse.toArray, none, none⟩
      else scan bound found next

/-- A text whose lines all end in the same way. -/
def sameLineEnds : List Char → List Char
  | '\r' :: '\n' :: rest => '\n' :: sameLineEnds rest
  | '\r' :: rest => '\n' :: sameLineEnds rest
  | c :: rest => c :: sameLineEnds rest
  | [] => []

/-- The tokens of a text whose first line has a number.  Every place but those where a line begins takes a
character, and a line begins at most once for every character. -/
def Scan.ofText (line : Nat) (text : List Char) : Scan :=
  let cs := sameLineEnds text
  Place.scan (2 * cs.length + 3) [] (Place.start line cs)

end TreeLint.Literal
