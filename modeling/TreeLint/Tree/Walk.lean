/-
  TreeLint/Tree/Walk.lean
  =======================
  **Walking a tree.**  A visitor is shown one node at a time and carries a state.  Its answer to a node
  decides how the walk goes on: into the node's children, past them, or not at all; a visitor may also
  give no answer, which goes past the children, or fail, which ends the walk.  Nodes are shown in
  document order.

  The walk keeps the trees that are still to be walked in a list, the next one first.  It ends because
  each visit takes one node off the list.
-/
import TreeLint.Tree.Node
import TreeLint.Log

namespace TreeLint

inductive Action where
  | visitChildren
  | skipChildren
  | halt
  deriving DecidableEq, Repr

/-- A visit: the answer or the failure, and the state that the visitor is left in either way. -/
structure Visit (σ ε : Type) where
  answer : Except ε (Option Action)
  state : σ

/-- A visitor with states `σ` that can fail with `ε`. -/
abbrev Visitor (σ ε : Type) := Node → σ → Visit σ ε

inductive Ending (ε : Type) where
  | covered
  | halted
  | failed (cause : ε)
  deriving DecidableEq, Repr

/-- A finished walk: the nodes shown to the visitor in order, its last state, and how it ended. -/
structure Walk (σ ε : Type) where
  visited : List Node
  state : σ
  ending : Ending ε

namespace Walk

variable {σ ε : Type}

def after (n : Node) (w : Walk σ ε) : Walk σ ε := { w with visited := n :: w.visited }

def run (visitor : Visitor σ ε) : List Node → σ → Walk σ ε
  | [], state => ⟨[], state, .covered⟩
  | n :: pending, state =>
    let visit := visitor n state
    match visit.answer with
    | .error cause => ⟨[n], visit.state, .failed cause⟩
    | .ok (some .halt) => ⟨[n], visit.state, .halted⟩
    | .ok (some .visitChildren) => (run visitor (n.children ++ pending) visit.state).after n
    | .ok _ => (run visitor pending visit.state).after n
termination_by pending => Node.sizeAll pending
decreasing_by
  · simp [Node.sizeAll, Node.size_eq n]
  · simp only [Node.sizeAll, Node.size_eq n]; omega

/-- What a walk gives back: whether it covered the trees, or the failure that ended it. -/
def returned (w : Walk σ ε) : Except ε Bool :=
  match w.ending with
  | .covered => .ok true
  | .halted => .ok false
  | .failed cause => .error cause

/-- The record that a walk leaves: none when the visitor failed. -/
def records (name : String) (w : Walk σ ε) : List Record :=
  let count := toString w.visited.length
  match w.ending with
  | .covered => [⟨.debug, .walk, name ++ " visited " ++ count ++ " node(s)"⟩]
  | .halted => [⟨.debug, .walk, name ++ " halted walk after " ++ count ++ " node(s)"⟩]
  | .failed _ => []

end Walk

def Node.walk {σ ε : Type} (root : Node) (visitor : Visitor σ ε) (state : σ) : Walk σ ε :=
  Walk.run visitor [root] state

/-- A visitor that looks at named nodes only and treats each by the handler for its kind; every other
node is passed through to its children. -/
def Visitor.dispatch {σ ε : Type} (handler? : String → Option (Visitor σ ε)) : Visitor σ ε :=
  fun n state =>
    if n.named then
      match handler? n.kind with
      | some handler => handler n state
      | none => ⟨.ok (some .visitChildren), state⟩
    else ⟨.ok (some .visitChildren), state⟩

end TreeLint
