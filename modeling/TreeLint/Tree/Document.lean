/-
  TreeLint/Tree/Document.lean
  ===========================
  **Parse trees as documents.**  The parser outside this library hands its trees over as documents: a
  node is a list of its kind, its start, its stop, 1 or 0 for named or not, and possibly the list of its
  children.  A truth value may stand for 1 or 0.  On disk a tree is a JSON object whose entry `tree` is
  the root and whose entry `has_error` tells whether the parser met something that it did not understand.
-/
import TreeLint.Context
import TreeLint.Data.Json

namespace TreeLint

open Data

def markOf? : Value → Option Bool
  | .int n => some (n != 0)
  | .bool b => some b
  | _ => none

mutual

def Node.ofValue? : Value → Option Node
  | .list [.text kind, .int start, .int stop, mark] =>
    (markOf? mark).map fun named => ⟨kind, start.toNat, stop.toNat, named, []⟩
  | .list [.text kind, .int start, .int stop, mark, .list children] => do
    let named ← markOf? mark
    let nodes ← Node.ofValues? children
    pure ⟨kind, start.toNat, stop.toNat, named, nodes⟩
  | _ => none

/-- The nodes that documents describe, if all of them do. -/
def Node.ofValues? : List Value → Option (List Node)
  | [] => some []
  | v :: vs => do
    let node ← Node.ofValue? v
    let nodes ← Node.ofValues? vs
    pure (node :: nodes)

end

/-- The tree of a file of which nothing is known: a root without children. -/
def Source.bareTree (s : Source) : Node := ⟨"source_file", 0, s.size, true, []⟩

def Document.ofTree (source : Source) (tree : Option Value) (hasError : Bool) : Document :=
  ⟨source, ⟨(tree.bind Node.ofValue?).getD source.bareTree, hasError⟩⟩

/-- A document from a source and the JSON text of its tree; an unreadable text says nothing. -/
def Document.ofJson (source : Source) (text : String) : Document :=
  match Json.read? text with
  | some (.object entries) =>
    let hasError := ((Entries.get? "has_error" entries).bind markOf?).getD false
    Document.ofTree source (Entries.get? "tree" entries) hasError
  | _ => Document.ofTree source none false

end TreeLint
