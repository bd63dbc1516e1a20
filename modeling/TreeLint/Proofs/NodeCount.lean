/-
  TreeLint/Proofs/NodeCount.lean
  ==============================
  **Three ways to count the nodes of a tree.**  The counting loop keeps a stack of trees and puts the
  children of each root that it has counted on it, so that the last child comes first.  Document order is
  listed by recursion.  A walk keeps its trees in document order and asks a visitor about each node.  On
  every tree all three come to the number of nodes that the recursion over children gives (`counts_agree`).

  The loop is followed turn by turn (`countTurn`).  A turn takes one node from what is pending and adds one
  to what has been counted, so after each turn the two together are what they were (`countTurn_spec`).  The
  loop therefore ends after as many turns as there are nodes, and not before.
-/
import Mathlib.Algebra.GroupWithZero.Nat
import Mathlib.Logic.Function.Iterate
import TreeLint.Proofs.Traversal

namespace TreeLint

namespace Node

/-! ### Sizes -/

theorem sizeAll_eq (ns : List Node) : sizeAll ns = (ns.map size).sum := by
  induction ns with
  | nil => rfl
  | cons n ns ih => rw [sizeAll, ih, List.map_cons, List.sum_cons]

theorem sizeAll_eq_zero_iff {ns : List Node} : sizeAll ns = 0 ↔ ns = [] := by
  cases ns with
  | nil => simp [sizeAll]
  | cons n ns => simp [sizeAll, size_eq]

theorem length_preorder (n : Node) : n.preorder.length = n.size := by
  induction n using childInduction with
  | step n ih =>
    rw [preorder_eq, descendants_eq, List.length_cons, List.length_flatMap, size_eq, sizeAll_eq,
      List.map_congr_left ih, Nat.add_comm]

/-! ### The counting loop -/

/-- One turn of the loop: a tree is taken off the stack, its root is counted, and its children are put on
the stack.  With nothing on the stack, nothing happens any more. -/
def countTurn : List Node × Nat → List Node × Nat
  | ([], seen) => ([], seen)
  | (n :: pending, seen) => (n.children.reverse ++ pending, seen + 1)

theorem countPending_turn (x : List Node × Nat) :
    countPending (countTurn x).1 (countTurn x).2 = countPending x.1 x.2 := by
  obtain ⟨pending, seen⟩ := x
  cases pending with
  | nil => rfl
  | cons n pending => rw [countTurn, countPending.eq_2]

theorem countTurn_spec {x : List Node × Nat} (hx : x.1 ≠ []) :
    sizeAll (countTurn x).1 + 1 = sizeAll x.1 ∧ (countTurn x).2 = x.2 + 1 := by
  obtain ⟨pending, seen⟩ := x
  cases pending with
  | nil => exact absurd rfl hx
  | cons n pending =>
    refine ⟨?_, rfl⟩
    simp only [countTurn, sizeAll_append, sizeAll_reverse, sizeAll, size_eq n]
    omega

/-- After so many turns, so many nodes have been counted and are no longer pending. -/
theorem iterate_countTurn (pending : List Node) (seen : Nat) {k : Nat} (hk : k ≤ sizeAll pending) :
    sizeAll (countTurn^[k] (pending, seen)).1 + k = sizeAll pending ∧
      (countTurn^[k] (pending, seen)).2 = seen + k := by
  induction k with
  | zero => exact ⟨rfl, rfl⟩
  | succ k ih =>
    obtain ⟨hsize, hseen⟩ := ih (by omega)
    have hpending : (countTurn^[k] (pending, seen)).1 ≠ [] := by
      intro hempty
      rw [hempty, sizeAll] at hsize
      omega
    obtain ⟨hsize', hseen'⟩ := countTurn_spec hpending
    rw [Function.iterate_succ_apply']
    omega

theorem countPending_iterate (k : Nat) (x : List Node × Nat) :
    countPending (countTurn^[k] x).1 (countTurn^[k] x).2 = countPending x.1 x.2 := by
  induction k with
  | zero => rfl
  | succ k ih => rw [Function.iterate_succ_apply', countPending_turn, ih]

/-- The loop ends when every pending node has had its turn. -/
theorem iterate_sizeAll (pending : List Node) (seen : Nat) :
    countTurn^[sizeAll pending] (pending, seen) = ([], seen + sizeAll pending) := by
  obtain ⟨hsize, hseen⟩ := iterate_countTurn pending seen (Nat.le_refl _)
  have hnone : sizeAll (countTurn^[sizeAll pending] (pending, seen)).1 = 0 := by omega
  exact Prod.ext (sizeAll_eq_zero_iff.mp hnone) hseen

theorem countPending_eq (pending : List Node) (seen : Nat) :
    countPending pending seen = seen + sizeAll pending := by
  rw [← countPending_iterate (sizeAll pending) (pending, seen), iterate_sizeAll, countPending]

theorem count_eq_size (n : Node) : n.count = n.size := by
  rw [count, countPending_eq, sizeAll, sizeAll, Nat.zero_add, Nat.add_zero]

end Node

/-! ### Walks that open every node -/

variable {σ ε : Type}

def Visitor.OpensAll (visitor : Visitor σ ε) : Prop :=
  ∀ n state, (visitor n state).answer = .ok (some .visitChildren)

theorem Walk.run_of_opensAll {visitor : Visitor σ ε} (hopens : visitor.OpensAll)
    (pending : List Node) (state : σ) :
    (run visitor pending state).visited = pending.flatMap Node.preorder ∧
      (run visitor pending state).ending = .covered := by
  fun_induction run visitor pending state with
  | case1 state => exact ⟨rfl, rfl⟩
  | case2 n pending state visit cause hanswer =>
    exact absurd ((hopens n state).symm.trans hanswer) (by simp)
  | case3 n pending state visit hanswer =>
    exact absurd ((hopens n state).symm.trans hanswer) (by simp)
  | case4 n pending state visit hanswer ih =>
    rw [List.flatMap_append] at ih
    rw [after_visited, after_ending, ih.1, ih.2, List.flatMap_cons, Node.preorder_eq,
      Node.descendants_eq, List.cons_append]
    exact ⟨rfl, rfl⟩
  | case5 n pending state visit answer hhalt hvisit hanswer ih =>
    exact absurd (Except.ok.inj (hanswer.symm.trans (hopens n state))) hvisit

/-- **All ways of counting agree**, on every tree.

1. The size of a tree is one more than the sizes of its children.
2. The counting loop goes on from turn to turn.  It has something on its stack for as many turns as the
   tree has nodes; then the stack is empty, and what has been counted is the size.
3. A node and what is listed below it in document order are as many.
4. So are the calls that a walk makes to a visitor that opens every node.  They are for the nodes of the
   tree in document order, and the walk's record counts them. -/
theorem counts_agree (root : Node) :
    (∀ n : Node, n.size = 1 + (n.children.map Node.size).sum) ∧
    ((∀ k, Node.countPending (Node.countTurn^[k] ([root], 0)).1 (Node.countTurn^[k] ([root], 0)).2 =
        root.count) ∧
      (∀ k < root.size, (Node.countTurn^[k] ([root], 0)).1 ≠ []) ∧
      Node.countTurn^[root.size] ([root], 0) = ([], root.size) ∧ root.count = root.size) ∧
    root.count = 1 + root.descendants.length ∧
    ∀ (visitor : Visitor σ ε) (state : σ), visitor.OpensAll →
      ∃ calls, (root.walk visitor.traced (state, [])).state =
          ((root.walk visitor state).state, calls) ∧
        calls.map Call.node = root.preorder ∧ calls.length = root.count ∧
        ∀ name, (root.walk visitor state).records name =
          [⟨.debug, .walk, name ++ " visited " ++ toString root.count ++ " node(s)"⟩] := by
  have hroot : Node.sizeAll [root] = root.size := by rw [Node.sizeAll, Node.sizeAll, Nat.add_zero]
  refine ⟨?_, ⟨?_, ?_, ?_, root.count_eq_size⟩, ?_, ?_⟩
  · intro n
    rw [Node.size_eq, Node.sizeAll_eq]
  · intro k
    exact Node.countPending_iterate k ([root], 0)
  · intro k hk hempty
    have hpending := (Node.iterate_countTurn [root] 0 (k := k) (by omega)).1
    rw [hempty, Node.sizeAll] at hpending
    omega
  · have hlast := Node.iterate_sizeAll [root] 0
    rwa [hroot, Nat.zero_add] at hlast
  · rw [root.count_eq_size, ← root.length_preorder, Node.preorder_eq, List.length_cons, Nat.add_comm]
  · intro visitor state hopens
    obtain ⟨calls, hstate, hnodes, -⟩ := Walk.run_traced visitor [root] state []
    obtain ⟨hvisited, hending⟩ := Walk.run_of_opensAll hopens [root] state
    rw [List.flatMap_singleton] at hvisited
    have hcount : root.preorder.length = root.count := by
      rw [root.length_preorder, root.count_eq_size]
    refine ⟨calls, hstate, hnodes.trans hvisited, ?_, ?_⟩
    · rw [← hcount, ← hvisited, ← hnodes, List.length_map]
    · intro name
      have hvisits : (root.walk visitor state).visited = root.preorder := hvisited
      have hcovered : (root.walk visitor state).ending = .covered := hending
      simp only [Walk.records, hcovered, hvisits, hcount]

/-- Opens every node and remembers their kinds. -/
def kindsVisitor : Visitor (List String) Unit := fun n kinds =>
  ⟨.ok (some .visitChildren), kinds ++ [n.kind]⟩

/-- A tree in which the loop and the walk go different ways. -/
def lopsidedTree : Node :=
  ⟨"a", 0, 3, true,
    [⟨"b", 0, 1, true, [⟨"c", 0, 1, true, [⟨"d", 0, 1, false, []⟩]⟩]⟩, ⟨"e", 1, 3, true, []⟩]⟩

theorem counts_agree_sample :
    kindsVisitor.OpensAll ∧
      ∃ calls, (lopsidedTree.walk kindsVisitor.traced ([], [])).state =
          ((lopsidedTree.walk kindsVisitor []).state, calls) ∧
        calls.map Call.node = lopsidedTree.preorder ∧ calls.length = lopsidedTree.count ∧
        ∀ name, (lopsidedTree.walk kindsVisitor []).records name =
          [⟨.debug, .walk, name ++ " visited " ++ toString lopsidedTree.count ++ " node(s)"⟩] := by
  have hopens : kindsVisitor.OpensAll := fun _ _ => rfl
  exact ⟨hopens, (counts_agree lopsidedTree).2.2.2 kindsVisitor [] hopens⟩

-- the loop has counted the last child, and what is below the first is still pending
example :
    ((Node.countTurn^[2] ([lopsidedTree], 0)).1.map Node.kind, lopsidedTree.count) = (["b"], 5) := by
  decide +kernel

end TreeLint
