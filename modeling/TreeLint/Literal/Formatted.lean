/-
  TreeLint/Literal/Formatted.lean
  ===============================
  **Formatted texts.**  A formatted text has fields in braces; a brace that is text is written twice.  A
  field holds an expression, possibly followed by an equals sign, by an exclamation mark and the letter of
  a conversion, and by a colon and a format, which is a formatted text again but can have no fields with
  formats that have fields.

  An expression ends at the first of these signs that is outside of brackets and quotes.  It is read as if
  it stood in round brackets, by a reader that is given to the functions of this module.
-/
import TreeLint.Literal.Quotation

namespace TreeLint.Literal

open Text

namespace Formatted

/-! ### Text between fields -/

/-- Text up to a field or the end: the text, what follows, and whether it ends with a brace that was
written twice, so that more text may follow. -/
structure Stretch where
  text : List Char
  rest : List Char
  doubled : Bool
  deriving DecidableEq, Repr

def Stretch.push (cs : List Char) (s : Stretch) : Stretch := { s with text := cs ++ s.text }

/-- What follows the name of a character in braces, and anything else without its first character. -/
def afterName (cs : List Char) : List Char :=
  if cs.head? = some '\x7b' then (cs.drop 1).dropWhile (· != '\x7d') |>.drop 1 else cs.drop 1

/-- The text up to a field or the end.  `inFormat` tells whether it is a format, where no brace is written
twice; `bound` is at least the length of the text. -/
def stretch (raw inFormat : Bool) : Nat → List Char → Except FieldFault Stretch
  | 0, cs => .ok ⟨[], cs, false⟩
  | _, [] => .ok ⟨[], [], false⟩
  | bound + 1, c :: rest =>
    let brace (taken : List Char) (mark : Char) (rest : List Char) : Except FieldFault Stretch :=
      if inFormat then .ok ⟨taken, mark :: rest, false⟩
      else if rest.head? = some mark then .ok ⟨taken ++ [mark], rest.drop 1, true⟩
      else if mark = '\x7d' then .error .singleBrace
      else .ok ⟨taken, mark :: rest, false⟩
    if c = '\\' ∧ !raw then
      match rest with
      | [] => .ok ⟨[c], [], false⟩
      | d :: after =>
        if d = 'N' then
          let next := afterName after
          let name := after.take (after.length - next.length)
          (stretch raw inFormat bound next).map (·.push (c :: d :: name))
        else if d = '\x7b' ∨ d = '\x7d' then brace [c] d after
        else (stretch raw inFormat bound after).map (·.push [c, d])
    else if c = '\x7b' ∨ c = '\x7d' then brace [] c rest
    else (stretch raw inFormat bound rest).map (·.push [c])

/-! ### Expressions of fields -/

/-- Where the search for the end of an expression is: the open brackets, the innermost first, and the
quote that has to be closed, with how many characters it has. -/
structure Inside where
  opened : List Char
  quote : Option (Char × Nat)
  deriving DecidableEq, Repr

def mostBrackets : Nat := 200

/-- The fault of an expression that ends where it must not. -/
def Inside.fault? (i : Inside) : Option FieldFault :=
  match i.quote, i.opened with
  | some _, _ => some .openQuote
  | none, opening :: _ => some (.unmatched opening)
  | none, [] => none

def Inside.bracket (i : Inside) (c : Char) : Except FieldFault Inside :=
  if c = '(' ∨ c = '[' ∨ c = '\x7b' then
    if mostBrackets ≤ i.opened.length then .error .tooManyBrackets
    else .ok { i with opened := c :: i.opened }
  else
    match i.opened with
    | [] => .error (.unmatched c)
    | opening :: outer =>
      let closing := if opening = '(' then ')' else if opening = '[' then ']' else '\x7d'
      if closing = c then .ok { i with opened := outer } else .error (.mismatched c opening)

/-- Whether a character and the one behind it are a comparison. -/
def isComparison (c : Char) (rest : List Char) : Bool :=
  (c == '!' || c == '=' || c == '<' || c == '>') && rest.head? = some '='

/-- The expression at the beginning of a field and what follows it.  `bound` is at least the length of the
text. -/
def expression : Nat → Inside → List Char → Except FieldFault (List Char × List Char)
  | 0, _, cs => .ok ([], cs)
  | _, i, [] =>
    match i.fault? with
    | some fault => .error fault
    | none => .ok ([], [])
  | bound + 1, i, c :: rest =>
    let go (i : Inside) (n : Nat) : Except FieldFault (List Char × List Char) :=
      (expression bound i ((c :: rest).drop n)).map fun (taken, after) =>
        ((c :: rest).take n ++ taken, after)
    if c = '\\' then .error .backslash
    else match i.quote with
      | some (mark, size) =>
        if c = mark ∧ (size = 1 ∨ (rest.take 2 = [mark, mark])) then go { i with quote := none } size
        else go i 1
      | none =>
        if c = apostrophe ∨ c = doubleQuote then
          let size := if rest.take 2 = [c, c] then 3 else 1
          go { i with quote := some (c, size) } size
        else if c = '#' then .error .comment
        else if i.opened.isEmpty && isComparison c rest then go i 2
        else if i.opened.isEmpty && (c == '!' || c == ':' || c == '\x7d' || c == '=') then .ok ([], c :: rest)
        else if "()[]\x7b\x7d".toList.contains c then i.bracket c >>= fun i => go i 1
        else go i 1

/-! ### Fields -/

def isMargin (c : Char) : Bool := c == ' ' || c == '\t' || c == '\n' || c == '\x0c'

def isGap (c : Char) : Bool := isMargin c || c == '\r' || c == '\x0b'

/-- The expression of a field, in front of what follows it, must not be empty. -/
def emptyFault? (taken : List Char) (next : Char) : Option FieldFault :=
  if taken.all isMargin then
    some (if next = '!' ∨ next = ':' ∨ next = '=' then .missingBefore next else .empty)
  else none

def afterConversion (cs : List Char) : Except FieldFault (List Char) :=
  match cs with
  | '!' :: [] => .error .missingBrace
  | '!' :: letter :: rest =>
    if letter = 's' ∨ letter = 'r' ∨ letter = 'a' then .ok rest else .error .conversion
  | _ => .ok cs

def afterEquals (cs : List Char) : List Char :=
  if cs.head? = some '=' then (cs.drop 1).dropWhile isGap else cs

def mostNested : Nat := 2

/-- Reads formatted text: at depth 0 up to the end, and in a format up to the brace that closes its field.
`read` reads the expression of a field in front of a rest.  Every step takes a character, so twice the
length of the text is enough for the bound. -/
def fields (raw : Bool) (read : List Char → List Char → Except Cause Unit) :
    Nat → Nat → List Char → Except Cause (List Char)
  | 0, _, cs => .ok cs
  | bound + 1, depth, cs => do
    let s ← (stretch raw (depth != 0) (cs.length + 1) cs).mapError .formatted
    if !raw then
      match Quotation.escapeFault? 0 s.text with
      | some fault => throw (.quote fault)
      | none => pure ()
    if s.doubled then fields raw read bound depth s.rest
    else match s.rest with
      | '\x7b' :: field =>
        if mostNested ≤ depth then throw (.formatted .nested)
        let (taken, after) ← (expression (field.length + 1) ⟨[], none⟩ field).mapError .formatted
        match after with
        | [] => throw (.formatted .missingBrace)
        | next :: _ =>
          match emptyFault? taken next with
          | some fault => throw (.formatted fault)
          | none => pure ()
          read taken s.rest
          let after ← (afterConversion (afterEquals after)).mapError .formatted
          let after ←
            if after.head? = some ':' then
              if (after.drop 1).isEmpty then throw (.formatted .missingBrace)
              else fields raw read bound (depth + 1) (after.drop 1)
            else pure after
          if after.head? = some '\x7d' then fields raw read bound depth (after.drop 1)
          else throw (.formatted .missingBrace)
      | rest =>
        if depth != 0 && rest.isEmpty then throw (.formatted .missingBrace) else pure rest

end Formatted

/-- The fault of a formatted text.  `read` reads the expression of a field that stands so many lines below
the first. -/
def Quotation.formattedFault (q : Quotation) (read : Nat → List Char → Except Cause Unit) :
    Except Cause Unit := do
  let lines (cs : List Char) : Nat := cs.count '\n'
  let _ ← Formatted.fields q.raw (fun taken rest => read (lines q.body - lines rest) taken)
    (2 * q.body.length + 2) 0 q.body

end TreeLint.Literal
