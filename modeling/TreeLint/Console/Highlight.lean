/-
  TreeLint/Console/Highlight.lean
  ===============================
  **Highlights in printed lines**, as rich sets them.  Names and values that look like program text are
  set off from the rest of a line: tags, attributes, brackets, addresses, calls, constants, numbers,
  paths, quoted texts and links.  Colours are not drawn, but a stretch that is set off is measured on its
  own.
-/
import TreeLint.Text.Pattern

namespace TreeLint.Console.Highlight

open Text Text.Pattern

/-! ### Characters -/

/-- A digit from 0 to 9. -/
def isPlainDigit (c : Char) : Bool := c.isDigit

def isHexDigit (c : Char) : Bool :=
  c.isDigit || ('a' ≤ c && c ≤ 'f') || ('A' ≤ c && c ≤ 'F')

def isFileChar (c : Char) : Bool := isWordChar c || "-._+".toList.contains c

def isTagChar (c : Char) : Bool := isWordChar c || "-.:|".toList.contains c

def isLinkChar (c : Char) : Bool :=
  c.isAlphanum || "-$_+!`(),.?/;:&=%#~@".toList.contains c

def isSign (c : Char) : Bool := c == '-' || c == '+'

def only (c : Char) : Pattern := char (· == c)

/-! ### Patterns -/

/-- A tag in angle brackets, as long as possible. -/
def tag : Pattern :=
  sequence [marked (only '<'), marked (anyChars isTagChar), marked (anyChars fun _ => true),
    marked (only '>')]

def namedValue : Pattern :=
  sequence [marked (between 1 50 isWordChar), only '=',
    optional (marked (sequence [optionalChar (· == '"'), someChars isWordChar,
      optionalChar (· == '"')]))]

def bracket : Pattern := marked (char fun c => "[]\x7b\x7d()".toList.contains c)

def shortAddress : Pattern :=
  let part := between 1 3 isPlainDigit
  marked (sequence [part, only '.', part, only '.', part, only '.', part])

def longAddress : Pattern :=
  let part := between 1 4 isHexDigit
  marked (sequence [.times (sequence [part, only ':', optionalChar (· == ':')]) 1 (some 7), part])

/-- The address of a device: pairs of hexadecimal digits, or a third as many groups of four and one
more. -/
def deviceAddress (pairs groups : Nat) : Pattern :=
  let pair := between 1 2 isHexDigit
  let group := between 4 4 isHexDigit
  let joinedBy (part : Pattern) (mark : Char) (count : Nat) : Pattern :=
    sequence [.times (sequence [part, only mark]) count (some count), part]
  marked (alternatives [joinedBy pair '-' pairs, joinedBy pair ':' pairs, joinedBy group '.' groups])

def identifier : Pattern :=
  let digits (n : Nat) : Pattern := between n n isHexDigit
  marked (sequence [digits 8, only '-', digits 4, only '-', digits 4, only '-', digits 4, only '-',
    digits 12])

/-- The name of what is called, before a round bracket. -/
def call : Pattern :=
  sequence [marked (.chars (fun c => isWordChar c || c == '.') 0 none true), only '(']

def constant (name : String) : Pattern :=
  sequence [.wordEdge true, marked (exactly name), .wordEdge true]

def decimals : Pattern :=
  sequence [someChars isPlainDigit, optionalChar (· == '.'), anyChars isPlainDigit]

/-- An exponent, which may be left out. -/
def exponent (reluctant : Bool) : Pattern :=
  optional (sequence [only 'e', optionalChar isSign, .chars isDecimalDigit 1 none reluctant])

def complexNumber : Pattern :=
  marked (sequence [.notAfter isWordChar, optionalChar (· == '-'), decimals, exponent true,
    optional (sequence [char isSign, decimals, exponent false]), only 'j'])

def number : Pattern :=
  marked (.either
    (sequence [.notAfter isWordChar, optionalChar (· == '-'), decimals, exponent true, .wordEdge true])
    (sequence [exactly "0x", anyChars isHexDigit]))

def path : Pattern :=
  sequence [marked (sequence [.wordEdge false, .times (sequence [only '/', someChars isFileChar]) 0 none,
      only '/']),
    marked (anyChars isFileChar)]

/-- A text in quotes, which no backslash stands right before at its end. -/
def quotedBy (quotes : String) : Pattern :=
  sequence [optionalChar (· == 'b'), exactly quotes, .chars (· != '\n') 0 none true,
    .notAfter (· == '\\'), exactly quotes]

def quotation : Pattern :=
  sequence [.notAfter fun c => c == '\\' || isWordChar c,
    marked (alternatives [quotedBy "'''", quotedBy "'", quotedBy "\"\"\"", quotedBy "\""])]

def link : Pattern :=
  marked (sequence [alternatives (["file", "https", "http", "ws", "wss"].map exactly), exactly "://",
    anyChars isLinkChar])

def patterns : List Pattern :=
  [tag, namedValue, bracket,
   alternatives [shortAddress, longAddress, deviceAddress 7 3, deviceAddress 5 2, identifier, call,
     constant "True", constant "False", constant "None", marked (exactly "..."), complexNumber, number,
     path, quotation, link]]

def stretches (cs : List Char) : List Stretch :=
  let text := cs.toArray
  (patterns.flatMap fun p => (p.allMatches text).flatMap (·.marks)).filter fun s => s.start < s.stop

end TreeLint.Console.Highlight
