/-
  TreeLint/Proofs/Walks.lean
  ==========================
  **What a walk comes to.**  A walk keeps a list of trees that are still to be walked.  Its runs are
  followed by the recursion of the walk itself: each visit takes the first tree off the list and, if the
  visitor asks for it, puts the children of its root in its place.

  What every visit keeps, the walk keeps (`run_keeps`), and visitors that answer alike walk alike
  (`run_lockstep`).  The main statement is about collectors: visitors that pass through every node outside
  of a class and go past each node inside it, adding one item.  Such a walk covers the trees and collects
  one item for each outermost node of the class, in document order (`run_collects`); it fails if a visit
  of one of these nodes must fail (`run_fails`).
-/
import Mathlib.Data.List.Forall2
import TreeLint.Proofs.TreeOrder
import TreeLint.Tree.Walk

namespace TreeLint.Walk

variable {σ ε : Type}

@[simp] theorem after_state (n : Node) (w : Walk σ ε) : (w.after n).state = w.state := rfl

@[simp] theorem after_ending (n : Node) (w : Walk σ ε) : (w.after n).ending = w.ending := rfl

@[simp] theorem after_visited (n : Node) (w : Walk σ ε) :
    (w.after n).visited = n :: w.visited := rfl

/-! ### Steps -/

theorem run_of_visitChildren {visitor : Visitor σ ε} {n : Node} {state next : σ}
    (h : visitor n state = ⟨.ok (some .visitChildren), next⟩) (pending : List Node) :
    run visitor (n :: pending) state = (run visitor (n.children ++ pending) next).after n := by
  rw [run, h]

theorem run_of_skipChildren {visitor : Visitor σ ε} {n : Node} {state next : σ}
    (h : visitor n state = ⟨.ok (some .skipChildren), next⟩) (pending : List Node) :
    run visitor (n :: pending) state = (run visitor pending next).after n := by
  rw [run, h]

/-! ### Invariants -/

/-- What every visit keeps is kept by the whole walk, however it ends. -/
theorem run_keeps {visitor : Visitor σ ε} {P : σ → Prop}
    (hvisit : ∀ n state, P state → P (visitor n state).state) (pending : List Node) {state : σ}
    (hstate : P state) : P (run visitor pending state).state := by
  fun_induction run visitor pending state with
  | case1 state => exact hstate
  | case2 n pending state visit cause hanswer => exact hvisit n state hstate
  | case3 n pending state visit hanswer => exact hvisit n state hstate
  | case4 n pending state visit hanswer ih => exact ih (hvisit n state hstate)
  | case5 n pending state visit answer hhalt hvisitChildren hanswer ih =>
    exact ih (hvisit n state hstate)

/-- A walk fails for a reason that one of its visits gave. -/
theorem cause_of_failed {visitor : Visitor σ ε} {P : ε → Prop}
    (hvisit : ∀ n state cause, (visitor n state).answer = .error cause → P cause)
    (pending : List Node) (state : σ) {cause : ε}
    (hfailed : (run visitor pending state).ending = .failed cause) : P cause := by
  fun_induction run visitor pending state with
  | case1 state => cases hfailed
  | case2 n pending state visit reason hanswer =>
    obtain rfl := Ending.failed.inj hfailed
    exact hvisit n state reason hanswer
  | case3 n pending state visit hanswer => cases hfailed
  | case4 n pending state visit hanswer ih => exact ih hfailed
  | case5 n pending state visit answer hhalt hvisitChildren hanswer ih => exact ih hfailed

/-! ### Two walks side by side -/

/-- Visitors that give the same answers while their states stay related show the same nodes and end in
the same way, with their last states related. -/
theorem run_lockstep {τ : Type} {visitor : Visitor σ ε} {visitor' : Visitor τ ε} {R : σ → τ → Prop}
    (hvisit : ∀ n state state', R state state' →
      (visitor n state).answer = (visitor' n state').answer ∧
        R (visitor n state).state (visitor' n state').state)
    (pending : List Node) (state : σ) : ∀ state', R state state' →
      (run visitor pending state).visited = (run visitor' pending state').visited ∧
        (run visitor pending state).ending = (run visitor' pending state').ending ∧
        R (run visitor pending state).state (run visitor' pending state').state := by
  fun_induction run visitor pending state with
  | case1 state =>
    intro state' hstate
    rw [run]
    exact ⟨rfl, rfl, hstate⟩
  | case2 n pending state visit cause hanswer =>
    intro state' hstate
    obtain ⟨hsame, hnext⟩ := hvisit n state state' hstate
    rw [run, ← hsame, hanswer]
    exact ⟨rfl, rfl, hnext⟩
  | case3 n pending state visit hanswer =>
    intro state' hstate
    obtain ⟨hsame, hnext⟩ := hvisit n state state' hstate
    rw [run, ← hsame, hanswer]
    exact ⟨rfl, rfl, hnext⟩
  | case4 n pending state visit hanswer ih =>
    intro state' hstate
    obtain ⟨hsame, hnext⟩ := hvisit n state state' hstate
    obtain ⟨hvisited, hending, hlast⟩ := ih _ hnext
    rw [run, ← hsame, hanswer]
    exact ⟨congrArg (n :: ·) hvisited, hending, hlast⟩
  | case5 n pending state visit answer hhalt hvisitChildren hanswer ih =>
    intro state' hstate
    obtain ⟨hsame, hnext⟩ := hvisit n state state' hstate
    obtain ⟨hvisited, hending, hlast⟩ := ih _ hnext
    rw [run, ← hsame, hanswer]
    cases answer with
    | none => exact ⟨congrArg (n :: ·) hvisited, hending, hlast⟩
    | some action =>
      cases action with
      | visitChildren => exact (hvisitChildren rfl).elim
      | skipChildren => exact ⟨congrArg (n :: ·) hvisited, hending, hlast⟩
      | halt => exact (hhalt rfl).elim

/-! ### Collectors -/

section Collectors

variable {δ : Type} {visitor : Visitor (σ × List δ) ε} {p : Node → Bool} {R : Node → δ → Prop}

/-- A collector's walk covers the trees, and its items belong to the outermost nodes of the class. -/
theorem run_collects
    (hpass : ∀ n state, p n = false → visitor n state = ⟨.ok (some .visitChildren), state⟩)
    (pending : List Node) (own : σ) (items : List δ)
    (htake : ∀ n ∈ pending.flatMap (Node.outermost p), ∀ items, ∃ item, R n item ∧
      visitor n (own, items) = ⟨.ok (some .skipChildren), (own, items ++ [item])⟩) :
    ∃ added, List.Forall₂ R (pending.flatMap (Node.outermost p)) added ∧
      (run visitor pending (own, items)).state = (own, items ++ added) ∧
      (run visitor pending (own, items)).ending = .covered := by
  -- a visit may push children, so the trees still to be walked are measured by their nodes
  induction hsize : Node.sizeAll pending using Nat.strongRecOn generalizing pending items with
  | _ size ih =>
    cases pending with
    | nil => exact ⟨[], .nil, by rw [run, List.append_nil], by rw [run]⟩
    | cons n pending =>
      have hsizes : size = n.size + Node.sizeAll pending := hsize.symm
      have hone := Node.size_eq n
      rw [List.flatMap_cons, Node.outermost_eq] at htake ⊢
      cases hn : p n with
      | false =>
        have hsmaller : Node.sizeAll (n.children ++ pending) < size := by
          rw [Node.sizeAll_append]
          omega
        rw [hn, if_neg Bool.false_ne_true, ← List.flatMap_append] at htake
        obtain ⟨added, hadded, hstate, hending⟩ := ih _ hsmaller _ items htake rfl
        refine ⟨added, ?_, ?_, ?_⟩
        · rwa [if_neg Bool.false_ne_true, ← List.flatMap_append]
        · rw [run_of_visitChildren (hpass n _ hn), after_state, hstate]
        · rw [run_of_visitChildren (hpass n _ hn), after_ending, hending]
      | true =>
        rw [hn, if_pos rfl] at htake
        obtain ⟨item, hitem, hvisit⟩ := htake n (List.mem_append_left _ (List.mem_singleton_self n))
          items
        obtain ⟨added, hadded, hstate, hending⟩ := ih _ (by omega) pending (items ++ [item])
          (fun m hm => htake m (List.mem_append_right _ hm)) rfl
        refine ⟨item :: added, ?_, ?_, ?_⟩
        · rw [if_pos rfl]
          exact .cons hitem hadded
        · rw [run_of_skipChildren hvisit, after_state, hstate, List.append_assoc,
            List.singleton_append]
        · rw [run_of_skipChildren hvisit, after_ending, hending]

/-- A collector that never halts does not get past an outermost node of the class whose visits fail. -/
theorem run_fails {visitor : Visitor σ ε} {n : Node} {pending : List Node}
    (hpass : ∀ n state, p n = false → visitor n state = ⟨.ok (some .visitChildren), state⟩)
    (hon : ∀ n state, p n = true → (visitor n state).answer ≠ .ok (some .halt))
    (hn : n ∈ pending.flatMap (Node.outermost p))
    (hfails : ∀ state, ∃ cause, (visitor n state).answer = .error cause) (state : σ) :
    ∃ cause, (run visitor pending state).ending = .failed cause := by
  have hne : ∀ m state answer, (visitor m state).answer = .ok answer → n ≠ m := by
    rintro m state answer hanswer rfl
    obtain ⟨cause, hcause⟩ := hfails state
    exact absurd (hanswer.symm.trans hcause) (by simp)
  fun_induction run visitor pending state with
  | case1 state => cases hn
  | case2 m pending state visit cause hanswer => exact ⟨cause, rfl⟩
  | case3 m pending state visit hanswer =>
    cases hm : p m with
    | true => exact absurd hanswer (hon m state hm)
    | false =>
      have hvisit : visit = ⟨.ok (some .visitChildren), state⟩ := hpass m state hm
      rw [hvisit] at hanswer
      cases hanswer
  | case4 m pending state visit hanswer ih =>
    apply ih
    rw [List.flatMap_append]
    rw [List.flatMap_cons] at hn
    rcases List.mem_append.mp hn with hn | hn
    · exact List.mem_append_left _ (Node.mem_outermost_of_ne hn (hne m state _ hanswer)).2
    · exact List.mem_append_right _ hn
  | case5 m pending state visit answer hhalt hopens hanswer ih =>
    apply ih
    rw [List.flatMap_cons] at hn
    rcases List.mem_append.mp hn with hn | hn
    · -- a node outside of the class is never passed by
      have hvisit : visit = ⟨.ok (some .visitChildren), state⟩ :=
        hpass m state (Node.mem_outermost_of_ne hn (hne m state answer hanswer)).1
      rw [hvisit] at hanswer
      exact absurd (Except.ok.inj hanswer).symm hopens
    · exact hn

end Collectors

end TreeLint.Walk
