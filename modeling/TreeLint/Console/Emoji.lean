/-
  TreeLint/Console/Emoji.lean
  ===========================
  **Emoji codes.**  In a text for a console, a name between two colons stands for an emoji.  Codes are found
  as rich finds them, from the left: what stands between a colon and the next one is a code if there is no
  blank in it, and both colons then belong to this code, whether its name is known or not.  Names are read
  in lower case.  A name may be followed by `-emoji` or `-text`, which ask for a presentation.

  Known names are in tables, by their first letters.  Each line of a table holds names and emoji by turns,
  with a colon between any two of them.
-/
import TreeLint.Console.Cells
import TreeLint.Console.Emoji.AToF
import TreeLint.Console.Emoji.GToO
import TreeLint.Console.Emoji.PToZ
import TreeLint.Text.Blank
import TreeLint.Text.Lowercase

namespace TreeLint.Console.Emoji

/-! ### Names -/

def tableOf (letter : Char) : List String :=
  match letter with
  | 'a' => namesA
  | 'b' => namesB
  | 'c' => namesC
  | 'd' => namesD
  | 'e' => namesE
  | 'f' => namesF
  | 'g' => namesG
  | 'h' => namesH
  | 'i' => namesI
  | 'j' => namesJ
  | 'k' => namesK
  | 'l' => namesL
  | 'm' => namesM
  | 'n' => namesN
  | 'o' => namesO
  | 'p' => namesP
  | 'q' => namesQ
  | 'r' => namesR
  | 's' => namesS
  | 't' => namesT
  | 'u' => namesU
  | 'v' => namesV
  | 'w' => namesW
  | 'x' => namesX
  | 'y' => namesY
  | 'z' => namesZ
  | _ => namesOther

/-- What comes right after a name in a list of names and emoji by turns. -/
def emojiAfter? (name : List Char) : List (List Char) → Option (List Char)
  | key :: emoji :: rest => if key = name then some emoji else emojiAfter? name rest
  | _ => none

def named? (name : List Char) : Option (List Char) :=
  match Text.lower name with
  | [] => none
  | letter :: rest =>
    (tableOf letter).findSome? fun line => emojiAfter? (letter :: rest) (Text.divide ':' line.toList)

/-! ### Codes -/

def textSelector : Char := Char.ofNat 0xFE0E

/-- What a name can be followed by, and the selector that then follows its emoji. -/
def presentations : List (List Char × Char) :=
  [("-emoji".toList, emojiSelector), ("-text".toList, textSelector)]

/-- What a code stands for, given what stands between its colons. -/
def emoji? (body : List Char) : Option (List Char) :=
  match presentations.find? (·.1.isSuffixOf body) with
  | some (ending, selector) =>
    (named? (body.take (body.length - ending.length))).map (· ++ [selector])
  | none => named? body

/-- The body of the code whose first colon stands right before a text. -/
def codeBody? (cs : List Char) : Option (List Char) :=
  let body := cs.takeWhile fun c => c != ':' && !Text.isBlank c
  if (cs.drop body.length).head? = some ':' then some body else none

inductive Mark where
  | char (c : Char)
  | code (body : List Char)
  deriving DecidableEq, Repr

/-- The codes of a text and the characters between them.  `skip` characters belong to a code that has been
read already. -/
def marks : Nat → List Char → List Mark
  | _, [] => []
  | skip + 1, _ :: rest => marks skip rest
  | 0, c :: rest =>
    if c = ':' then
      match codeBody? rest with
      | some body => .code body :: marks (body.length + 1) rest
      | none => .char c :: marks 0 rest
    else .char c :: marks 0 rest

namespace Mark

def source : Mark → List Char
  | .char c => [c]
  | .code body => ':' :: (body ++ [':'])

/-- A code that is not known stays as it is. -/
def shown : Mark → List Char
  | .char c => [c]
  | .code body => (emoji? body).getD (':' :: (body ++ [':']))

end Mark

/-- A text with emoji in the place of their codes. -/
def replaced (cs : List Char) : List Char := (marks 0 cs).flatMap Mark.shown

end TreeLint.Console.Emoji
