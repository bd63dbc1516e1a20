/-
  TreeLint/Console/Markup.lean
  ============================
  **Console markup**, as rich reads it.  A text to be printed may hold tags that open and close styles.  A
  tag is an opening bracket, one of `a` to `z`, `#`, `/` or `@`, and everything up to the first closing
  bracket, with no other opening bracket between.  Brackets in any other company are text.  An odd number
  of backslashes before a tag makes it text, and every two of them stand for one; a backslash before a
  bracket that begins no tag is dropped.

  Tags vanish and leave the spans of their styles behind.  Closing tags have to match: `[/]` closes the
  latest open tag and `[/name]` the latest open tag of that name, where names are compared by their
  normal forms.  A tag whose name begins with `@` stands for an event, and what follows an equals sign in
  it has to be a literal by the time that the tag is closed.

  Emoji take the place of their codes in each stretch of text between tags.  Backslashes before a tag, and
  a tag that they make text, are stretches of their own, so no code reaches across them.
-/
import TreeLint.Console.Emoji
import TreeLint.Console.Styled
import TreeLint.Literal.Reading
import TreeLint.Text.Quoted

namespace TreeLint.Console

/-- What is wrong with markup: a closing tag that closes nothing, and where its bracket stands; the
parameters of an event that are no literal; or a colour that cannot be worked out. -/
inductive MarkupError where
  | unmatched (body : String) (position : Nat)
  | nothingToClose (position : Nat)
  | event (parameters : String) (fault : Literal.Fault)
  | colour (cause : Style.ColourError)
  deriving DecidableEq, Repr

def MarkupError.message : MarkupError → String
  | .unmatched body position =>
    "closing tag '[" ++ body ++ "]' at position " ++ toString position
      ++ " doesn't match any open tag"
  | .nothingToClose position =>
    "closing tag '[/]' at position " ++ toString position ++ " has nothing to close"
  | .event parameters fault =>
    "error parsing " ++ fault.place ++ Text.quoted parameters ++ "; " ++ fault.message
  | .colour cause => cause.message

namespace Markup

/-! ### Pieces -/

/-- Part of a stretch of text; a stretch of its own that comes from backslashes before a tag; or a tag with
what stands between its brackets and the position of the opening one. -/
inductive Piece where
  | text (cs : List Char)
  | escaped (cs : List Char)
  | tag (position : Nat) (body : List Char)
  deriving DecidableEq, Repr

def isTagStart (c : Char) : Bool :=
  ('a' ≤ c && c ≤ 'z') || c == '#' || c == '/' || c == '@'

/-- The body of the tag whose opening bracket stands right before a text. -/
def tagBody? (cs : List Char) : Option (List Char) :=
  match cs with
  | c :: _ =>
    if isTagStart c then
      let body := cs.takeWhile fun c => c != '[' && c != ']'
      if (cs.drop body.length).head? = some ']' then some body else none
    else none
  | [] => none

def backslashes (n : Nat) : List Char := List.replicate n '\\'

/-- The pieces of a text.  `skip` characters belong to a tag that has been read already, and `run`
backslashes stand right before the rest. -/
def pieces : Nat → Nat → Nat → List Char → List Piece
  | _, _, run, [] => [.text (backslashes run)]
  | skip + 1, position, run, _ :: rest => pieces skip (position + 1) run rest
  | 0, position, run, c :: rest =>
    if c = '\\' then pieces 0 (position + 1) (run + 1) rest
    else if c = '[' then
      match tagBody? rest with
      | some body =>
        .escaped (backslashes (run / 2))
          :: (if run % 2 = 1 then .escaped ('[' :: (body ++ [']'])) else .tag position body)
          :: pieces (body.length + 1) (position + 1) 0 rest
      | none => .text (backslashes (run - 1) ++ ['[']) :: pieces 0 (position + 1) 0 rest
    else .text (backslashes run ++ [c]) :: pieces 0 (position + 1) 0 rest

/-- The pieces with each stretch of text in one. -/
def joined : List Piece → List Piece
  | [] => []
  | .text cs :: rest =>
    match joined rest with
    | .text more :: others => .text (cs ++ more) :: others
    | others => .text cs :: others
  | p :: rest => p :: joined rest

/-! ### Plain text -/

/-- Characters that a console is never sent: bell, backspace, vertical tab, form feed and carriage
return. -/
def isDropped (c : Char) : Bool := [0x07, 0x08, 0x0B, 0x0C, 0x0D].contains c.toNat

def printable (cs : List Char) : List Char := cs.filter (!isDropped ·)

/-- A stretch of text as a console is sent it. -/
def sent (cs : List Char) : List Char := printable (Emoji.replaced cs)

/-! ### Tags -/

/-- An open tag: the offset in the text where its style begins, the normal form of its name, and what
stands after an equals sign. -/
structure OpenTag where
  start : Nat
  name : List Char
  parameters : List Char
  deriving DecidableEq, Repr

def OpenTag.ofBody (start : Nat) (body : List Char) : Except MarkupError OpenTag :=
  let name := body.takeWhile (· != '=')
  match Style.normalForm name with
  | .error cause => .error (.colour cause)
  | .ok form => .ok ⟨start, form, body.drop (name.length + 1)⟩

/-- A tag for an event and not for a style. -/
def OpenTag.isEvent (tag : OpenTag) : Bool := tag.name.head? = some '@'

/-- The colour that cannot be worked out when a style is drawn whose parameters are part of its name. -/
def OpenTag.fault (tag : OpenTag) : Option Style.ColourError :=
  match Style.normalForm (tag.name ++ ' ' :: tag.parameters) with
  | .error cause => some cause
  | .ok _ => none

def OpenTag.span (stop : Nat) (tag : OpenTag) : Span := ⟨tag.start, stop, tag.fault⟩

/-- Closes a tag at an offset: the parameters of an event have to be a literal. -/
def OpenTag.close (stop : Nat) (tag : OpenTag) : Except MarkupError Span :=
  if tag.isEvent then
    if tag.parameters.isEmpty then .ok ⟨tag.start, stop, none⟩
    else match Literal.fault? tag.parameters with
      | some fault => .error (.event (String.ofList tag.parameters) fault)
      | none => .ok ⟨tag.start, stop, none⟩
  else .ok (tag.span stop)

/-- The latest open tag with a name, and the other open tags. -/
def popNamed? (name : List Char) : List OpenTag → Option (OpenTag × List OpenTag)
  | [] => none
  | tag :: rest =>
    if tag.name = name then some (tag, rest)
    else (popNamed? name rest).map fun (found, others) => (found, tag :: others)

/-- The tag that a closing tag closes, and the tags that are still open.  `closing` is what stands after
the slash, up to an equals sign. -/
def popClosed (opened : List OpenTag) (position : Nat) (body closing : List Char) :
    Except MarkupError (OpenTag × List OpenTag) :=
  if (Text.trim closing).isEmpty then
    match opened with
    | [] => .error (.nothingToClose position)
    | tag :: still => .ok (tag, still)
  else
    match Style.normalForm closing with
    | .error cause => .error (.colour cause)
    | .ok name =>
      match popNamed? name opened with
      | some found => .ok found
      | none => .error (.unmatched (String.ofList body) position)

/-- What pieces show after `offset` characters, given the open tags, the latest first.  The spans are in
the order in which they end. -/
def shown : Nat → List OpenTag → List Piece → Except MarkupError Styled
  | offset, opened, [] => .ok ⟨[], opened.map (·.span offset)⟩
  | offset, opened, .text cs :: rest => do
    let rest ← shown (offset + (sent cs).length) opened rest
    pure { rest with chars := sent cs ++ rest.chars }
  | offset, opened, .escaped cs :: rest => do
    let rest ← shown (offset + (sent cs).length) opened rest
    pure { rest with chars := sent cs ++ rest.chars }
  | offset, opened, .tag position body :: rest =>
    match body.takeWhile (· != '=') with
    | '/' :: closing => do
      let (tag, still) ← popClosed opened position body closing
      let span ← tag.close offset
      let rest ← shown offset still rest
      pure { rest with spans := span :: rest.spans }
    | _ => do
      let tag ← OpenTag.ofBody offset body
      shown offset (tag :: opened) rest

end Markup

/-- What a marked-up text shows.  Of the spans, those that begin first come first, and of those that begin
together the last that ends. -/
def Markup.read (s : String) : Except MarkupError Styled := do
  let t ← Markup.shown 0 [] (Markup.joined (Markup.pieces 0 0 0 s.toList))
  pure { t with spans := t.spans.reverse.mergeSort fun a b => a.start ≤ b.start }

end TreeLint.Console
