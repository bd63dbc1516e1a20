/-
  TreeLint/Tree/Node.lean
  =======================
  **Parse trees.**  Trees come from a parser outside this library.  A node has a kind, the span of bytes
  it covers, a mark that tells named nodes from bare tokens, and its children in order.  Nothing is
  assumed of the spans: children may leave their parent, overlap or run backwards.

  The content of a node is what remains of its span without comments and blanks at either edge; this is
  the span that findings point to.
-/
import TreeLint.Source
import TreeLint.Text.Blank

namespace TreeLint

structure Node where
  kind : String
  start : Nat
  stop : Nat
  named : Bool
  children : List Node
  deriving Repr, Inhabited

/-- A span that reaches beyond the end of the file. -/
inductive SpanError where
  | outOfRange
  deriving DecidableEq, Repr

def SpanError.message : SpanError → String
  | .outOfRange => "index out of range"

namespace Node

def span (n : Node) : Span := ⟨n.start, n.stop⟩

def commentKinds : List String := ["comment", "multiline_comment"]

def isComment (n : Node) : Bool := commentKinds.contains n.kind

/-! ### The nodes of a tree -/

mutual

/-- A node and everything below it in document order: parents before children, children in order. -/
def preorder : Node → List Node
  | ⟨kind, start, stop, named, children⟩ =>
    ⟨kind, start, stop, named, children⟩ :: preorderAll children

def preorderAll : List Node → List Node
  | [] => []
  | n :: rest => preorder n ++ preorderAll rest

end

/-- Everything below a node, in document order. -/
def descendants (n : Node) : List Node := preorderAll n.children

mutual

def size : Node → Nat
  | ⟨_, _, _, _, children⟩ => 1 + sizeAll children

def sizeAll : List Node → Nat
  | [] => 0
  | n :: rest => size n + sizeAll rest

end

theorem size_eq (n : Node) : n.size = 1 + sizeAll n.children := by
  cases n; rfl

@[simp] theorem sizeAll_append (ms ns : List Node) :
    sizeAll (ms ++ ns) = sizeAll ms + sizeAll ns := by
  induction ms with
  | nil => simp [sizeAll]
  | cons m ms ih => simp [sizeAll, ih, Nat.add_assoc]

@[simp] theorem sizeAll_reverse (ns : List Node) : sizeAll ns.reverse = sizeAll ns := by
  induction ns with
  | nil => rfl
  | cons n ns ih => simp [sizeAll, ih, Nat.add_comm]

/-- Counts nodes with a stack of trees that are still to be counted; of a node's children the last is
counted first. -/
def countPending : List Node → Nat → Nat
  | [], seen => seen
  | n :: pending, seen => countPending (n.children.reverse ++ pending) (seen + 1)
termination_by pending => sizeAll pending
decreasing_by simp [sizeAll, size_eq n]

def count (n : Node) : Nat := countPending [n] 0

/-! ### Text and content -/

def bytes (n : Node) (source : Source) : List UInt8 := source.slice n.span

def trimmedText (n : Node) (source : Source) : List Char :=
  Text.trim (Text.Utf8.decode (n.bytes source))

/-- The span from the first to the last child that is not a comment, for a node with children of both
sorts; the node's own span otherwise. -/
def tokenSpan (n : Node) : Span :=
  let tokens := n.children.filter (!·.isComment)
  match tokens.head?, tokens.getLast? with
  | some first, some last =>
    if tokens.length = n.children.length then n.span else ⟨first.start, last.stop⟩
  | _, _ => n.span

end Node

/-- A node's token span without the blank bytes at its edges.  A node of nothing but blanks keeps its
own span, a span that runs backwards stays, and a span that reaches beyond the file is an error. -/
def Source.contentSpan (s : Source) (n : Node) : Except SpanError Span :=
  let outer := n.tokenSpan
  if outer.stop < outer.start then .ok outer
  else if outer.start = outer.stop then .ok n.span
  else if s.size < outer.stop then .error .outOfRange
  else
    let bytes := s.slice outer
    let lead := (bytes.takeWhile isBlankByte).length
    let trail := (bytes.reverse.takeWhile isBlankByte).length
    if lead = bytes.length then .ok n.span
    else .ok ⟨outer.start + lead, outer.stop - trail⟩

def Source.contentText (s : Source) (n : Node) : Except SpanError String :=
  (s.contentSpan n).map s.text

end TreeLint
