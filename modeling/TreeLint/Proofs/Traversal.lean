/-
  TreeLint/Proofs/Traversal.lean
  ==============================
  **A walk is a depth-first traversal.**  The walk works on a list of trees that are still to be walked.
  Beside it stands the traversal by recursion: a node first, then its children from left to right if the
  visitor asks for them, and nothing more after a halt or a failure (`Node.traverse`).

  The two are tied together by one equation (`run_cons`).  Walking a tree that stands before other trees
  is traversing it and, if the traversal covered it, walking the others; so what is pending is exactly
  what the recursion has still to do after it returns.

  Which visits a walk makes cannot be read off its result, because a result could tell a story of its
  own.  A visitor is therefore made to keep a list of the calls that it gets (`Visitor.traced`), and the
  calls are compared with what the walk says.  All calls but the last are answered so that the walk goes
  on, and the last one decides how it ends (`Decides`).

  The main statement is `walk_is_traversal`.
-/
import TreeLint.Proofs.Walks

namespace TreeLint

variable {σ ε : Type}

/-! ### The traversal by recursion -/

/-- Goes on with another walk where this one covered its trees; a walk that was halted or failed stays
as it ended. -/
def Walk.andThen (w : Walk σ ε) (next : σ → Walk σ ε) : Walk σ ε :=
  match w.ending with
  | .covered => { next w.state with visited := w.visited ++ (next w.state).visited }
  | .halted => w
  | .failed _ => w

mutual

/-- Visits a node and then, if the visitor asks for it, its children. -/
def Node.traverse (visitor : Visitor σ ε) : Node → σ → Walk σ ε
  | ⟨kind, start, stop, named, children⟩, state =>
    let n : Node := ⟨kind, start, stop, named, children⟩
    let visit := visitor n state
    match visit.answer with
    | .error cause => ⟨[n], visit.state, .failed cause⟩
    | .ok (some .halt) => ⟨[n], visit.state, .halted⟩
    | .ok (some .visitChildren) => (Node.traverseAll visitor children visit.state).after n
    | .ok (some .skipChildren) => ⟨[n], visit.state, .covered⟩
    | .ok none => ⟨[n], visit.state, .covered⟩

/-- Traverses trees from left to right, up to the first that is not covered. -/
def Node.traverseAll (visitor : Visitor σ ε) : List Node → σ → Walk σ ε
  | [], state => ⟨[], state, .covered⟩
  | n :: rest, state => (Node.traverse visitor n state).andThen (Node.traverseAll visitor rest)

end

theorem Node.traverse_eq (visitor : Visitor σ ε) (n : Node) (state : σ) :
    n.traverse visitor state =
      match visitor n state with
      | ⟨.error cause, next⟩ => ⟨[n], next, .failed cause⟩
      | ⟨.ok (some .halt), next⟩ => ⟨[n], next, .halted⟩
      | ⟨.ok (some .visitChildren), next⟩ =>
        (Node.traverseAll visitor n.children next).after n
      | ⟨.ok (some .skipChildren), next⟩ => ⟨[n], next, .covered⟩
      | ⟨.ok none, next⟩ => ⟨[n], next, .covered⟩ := by
  obtain ⟨kind, start, stop, named, children⟩ := n
  rw [Node.traverse]
  obtain ⟨answer, next⟩ := visitor ⟨kind, start, stop, named, children⟩ state
  rcases answer with cause | (_ | action)
  · rfl
  · rfl
  · cases action <;> rfl

namespace Walk

theorem andThen_assoc (w : Walk σ ε) (f g : σ → Walk σ ε) :
    (w.andThen f).andThen g = w.andThen fun state => (f state).andThen g := by
  obtain ⟨visited, state, ending⟩ := w
  cases ending with
  | covered =>
    simp only [andThen]
    cases hf : (f state).ending <;> simp [hf, List.append_assoc]
  | halted => rfl
  | failed cause => rfl

theorem after_andThen (n : Node) (w : Walk σ ε) (f : σ → Walk σ ε) :
    (w.after n).andThen f = (w.andThen f).after n := by
  obtain ⟨visited, state, ending⟩ := w
  cases ending with
  | covered => rfl
  | halted => rfl
  | failed cause => rfl

@[simp] theorem nil_andThen (state : σ) (f : σ → Walk σ ε) :
    (⟨[], state, .covered⟩ : Walk σ ε).andThen f = f state := rfl

theorem andThen_covered (w : Walk σ ε) : (w.andThen fun state => ⟨[], state, .covered⟩) = w := by
  obtain ⟨visited, state, ending⟩ := w
  cases ending with
  | covered => simp [andThen]
  | halted => rfl
  | failed cause => rfl

/-! ### What is pending is what the recursion has still to do -/

/-- Trees at the head of the list are traversed one after the other, if each of them is by itself. -/
theorem run_append_of_forall {visitor : Visitor σ ε} {ns : List Node}
    (hns : ∀ n ∈ ns, ∀ pending state,
      run visitor (n :: pending) state = (n.traverse visitor state).andThen (run visitor pending))
    (pending : List Node) (state : σ) :
    run visitor (ns ++ pending) state =
      (Node.traverseAll visitor ns state).andThen (run visitor pending) := by
  induction ns generalizing state with
  | nil => rw [List.nil_append, Node.traverseAll, nil_andThen]
  | cons n ns ih =>
    have hrest : ∀ state, run visitor (ns ++ pending) state =
        (Node.traverseAll visitor ns state).andThen (run visitor pending) :=
      ih fun m hm => hns m (List.mem_cons_of_mem n hm)
    rw [List.cons_append, hns n List.mem_cons_self, Node.traverseAll, andThen_assoc]
    congr 1
    funext state
    exact hrest state

/-- Walking a tree before others is traversing it and then, if it was covered, walking the others. -/
theorem run_cons (visitor : Visitor σ ε) (n : Node) (pending : List Node) (state : σ) :
    run visitor (n :: pending) state = (n.traverse visitor state).andThen (run visitor pending) := by
  induction n using Node.childInduction generalizing pending state with
  | step n ih =>
    rw [run, Node.traverse_eq]
    obtain ⟨answer, next⟩ := visitor n state
    rcases answer with cause | (_ | action)
    · rfl
    · rfl
    · cases action with
      | visitChildren =>
        -- the children take the place of the node, before everything that was pending
        simp only [run_append_of_forall ih, after_andThen]
      | skipChildren => rfl
      | halt => rfl

theorem walk_eq_traverse (visitor : Visitor σ ε) (root : Node) (state : σ) :
    root.walk visitor state = root.traverse visitor state := by
  have hnothing : run visitor [] = fun state => ⟨[], state, .covered⟩ := by
    funext state
    rw [run]
  rw [Node.walk, run_cons, hnothing, andThen_covered]

/-- A walk makes at most one visit for each node that is pending, so it ends. -/
theorem length_visited_le (visitor : Visitor σ ε) (pending : List Node) (state : σ) :
    (run visitor pending state).visited.length ≤ Node.sizeAll pending := by
  fun_induction run visitor pending state with
  | case1 state => exact Nat.zero_le _
  | case2 n pending state visit cause hanswer =>
    rw [Node.sizeAll, Node.size_eq, List.length_singleton]
    omega
  | case3 n pending state visit hanswer =>
    rw [Node.sizeAll, Node.size_eq, List.length_singleton]
    omega
  | case4 n pending state visit hanswer ih =>
    rw [Node.sizeAll_append] at ih
    rw [after_visited, List.length_cons, Node.sizeAll, Node.size_eq]
    omega
  | case5 n pending state visit answer hhalt hvisit hanswer ih =>
    rw [after_visited, List.length_cons, Node.sizeAll, Node.size_eq]
    omega

end Walk

/-! ### Calls -/

/-- One call of a visitor: the node it was shown, and what came back. -/
structure Call (ε : Type) where
  node : Node
  answer : Except ε (Option Action)

/-- An answer after which a walk goes on, into the children or past them. -/
def Call.goesOn (call : Call ε) : Bool :=
  match call.answer with
  | .error _ => false
  | .ok (some .halt) => false
  | .ok (some .visitChildren) => true
  | .ok (some .skipChildren) => true
  | .ok none => true

/-- The same visitor, which also keeps a list of its calls. -/
def Visitor.traced (visitor : Visitor σ ε) : Visitor (σ × List (Call ε)) ε :=
  fun n (state, calls) =>
    let visit := visitor n state
    ⟨visit.answer, (visit.state, calls ++ [⟨n, visit.answer⟩])⟩

namespace Walk

/-- Calls in order, and the ending that they give a walk: none of them stops it, or the last one does and
says how. -/
inductive Decides : List (Call ε) → Ending ε → Prop
  | covered {calls : List (Call ε)} (hon : ∀ call ∈ calls, call.goesOn = true) :
      Decides calls .covered
  | halted {calls : List (Call ε)} (hon : ∀ call ∈ calls, call.goesOn = true) (n : Node) :
      Decides (calls ++ [⟨n, .ok (some .halt)⟩]) .halted
  | failed {calls : List (Call ε)} (hon : ∀ call ∈ calls, call.goesOn = true) (n : Node)
      (cause : ε) : Decides (calls ++ [⟨n, .error cause⟩]) (.failed cause)

theorem Decides.cons {first : Call ε} {calls : List (Call ε)} {ending : Ending ε}
    (hfirst : first.goesOn = true) (h : Decides calls ending) : Decides (first :: calls) ending := by
  have hall : ∀ {calls : List (Call ε)}, (∀ call ∈ calls, call.goesOn = true) →
      ∀ call ∈ first :: calls, call.goesOn = true := by
    intro calls hon call hcall
    rcases List.mem_cons.mp hcall with rfl | hcall
    · exact hfirst
    · exact hon call hcall
  cases h with
  | covered hon => exact .covered (hall hon)
  | halted hon n => exact .halted (hall hon) n
  | failed hon n cause => exact .failed (hall hon) n cause

theorem not_exists_of_goesOn {calls : List (Call ε)} {answer : Except ε (Option Action)}
    (hon : ∀ call ∈ calls, call.goesOn = true) (hstops : ∀ n, Call.goesOn ⟨n, answer⟩ = false) :
    ¬ ∃ call ∈ calls, call.answer = answer := by
  rintro ⟨⟨n, _⟩, hcall, rfl⟩
  have hgoes := hon _ hcall
  rw [hstops n] at hgoes
  cases hgoes

/-- After calls that go on, only the last call can have given an answer that stops the walk. -/
theorem exists_answer_iff {calls : List (Call ε)} {last : Call ε}
    {answer : Except ε (Option Action)} (hon : ∀ call ∈ calls, call.goesOn = true)
    (hstops : ∀ n, Call.goesOn ⟨n, answer⟩ = false) :
    (∃ call ∈ calls ++ [last], call.answer = answer) ↔ last.answer = answer := by
  constructor
  · rintro ⟨call, hcall, hanswer⟩
    rcases List.mem_append.mp hcall with hcall | hcall
    · exact absurd ⟨call, hcall, hanswer⟩ (not_exists_of_goesOn hon hstops)
    · rw [← List.mem_singleton.mp hcall]
      exact hanswer
  · intro hanswer
    exact ⟨last, List.mem_append_right _ (List.mem_singleton_self last), hanswer⟩

theorem Decides.halted_iff {calls : List (Call ε)} {ending : Ending ε} (h : Decides calls ending) :
    ending = .halted ↔ ∃ call ∈ calls, call.answer = .ok (some .halt) := by
  have hstops : ∀ n, Call.goesOn (⟨n, .ok (some .halt)⟩ : Call ε) = false := fun _ => rfl
  cases h with
  | covered hon => simp only [not_exists_of_goesOn hon hstops, reduceCtorEq]
  | halted hon n => simp only [exists_answer_iff hon hstops]
  | failed hon n cause => simp only [exists_answer_iff hon hstops, reduceCtorEq]

theorem Decides.failed_iff {calls : List (Call ε)} {ending : Ending ε} (h : Decides calls ending)
    (cause : ε) : ending = .failed cause ↔ ∃ call ∈ calls, call.answer = .error cause := by
  have hstops : ∀ n, Call.goesOn (⟨n, .error cause⟩ : Call ε) = false := fun _ => rfl
  cases h with
  | covered hon => simp only [not_exists_of_goesOn hon hstops, reduceCtorEq]
  | halted hon n => simp only [exists_answer_iff hon hstops, reduceCtorEq]
  | failed hon n other =>
    simp only [exists_answer_iff hon hstops, Ending.failed.injEq, Except.error.injEq]

theorem Decides.goesOn_dropLast {calls : List (Call ε)} {ending : Ending ε}
    (h : Decides calls ending) : ∀ call ∈ calls.dropLast, call.goesOn = true := by
  cases h with
  | covered hon => exact fun call hcall => hon call (List.dropLast_subset calls hcall)
  | halted hon n => rwa [List.dropLast_concat]
  | failed hon n cause => rwa [List.dropLast_concat]

/-- The calls of a walk are for the nodes that it says it visited, and they decide its ending.  Keeping
the list changes nothing else. -/
theorem run_traced (visitor : Visitor σ ε) (pending : List Node) (state : σ) :
    ∀ before, ∃ calls,
      (run visitor.traced pending (state, before)).state =
        ((run visitor pending state).state, before ++ calls) ∧
      calls.map Call.node = (run visitor pending state).visited ∧
      Decides calls (run visitor pending state).ending := by
  have hnone : ∀ call ∈ ([] : List (Call ε)), call.goesOn = true := fun call hcall => by cases hcall
  fun_induction run visitor pending state with
  | case1 state =>
    intro before
    refine ⟨[], ?_, rfl, .covered hnone⟩
    rw [run, List.append_nil]
  | case2 n pending state visit cause hanswer =>
    intro before
    refine ⟨[⟨n, .error cause⟩], ?_, rfl, .failed hnone n cause⟩
    simp only [run, Visitor.traced, visit, hanswer]
  | case3 n pending state visit hanswer =>
    intro before
    refine ⟨[⟨n, .ok (some .halt)⟩], ?_, rfl, .halted hnone n⟩
    simp only [run, Visitor.traced, visit, hanswer]
  | case4 n pending state visit hanswer ih =>
    intro before
    obtain ⟨calls, hstate, hnodes, hdecides⟩ := ih (before ++ [⟨n, .ok (some .visitChildren)⟩])
    refine ⟨⟨n, .ok (some .visitChildren)⟩ :: calls, ?_, ?_, hdecides.cons rfl⟩
    · rw [List.append_assoc, List.singleton_append] at hstate
      rw [run]
      simp only [Visitor.traced, visit, hanswer, after_state] at hstate ⊢
      exact hstate
    · rw [List.map_cons, hnodes, after_visited]
  | case5 n pending state visit answer hhalt hvisit hanswer ih =>
    intro before
    -- no answer, or the answer to go past the children
    have hpast : answer = none ∨ answer = some .skipChildren := by
      rcases answer with _ | action
      · exact Or.inl rfl
      · cases action with
        | visitChildren => exact absurd rfl hvisit
        | skipChildren => exact Or.inr rfl
        | halt => exact absurd rfl hhalt
    have hgoes : Call.goesOn (⟨n, .ok answer⟩ : Call ε) = true := by
      rcases hpast with rfl | rfl <;> rfl
    have hrun : run visitor.traced (n :: pending) (state, before) =
        (run visitor.traced pending (visit.state, before ++ [⟨n, .ok answer⟩])).after n := by
      rw [run]
      rcases hpast with rfl | rfl <;> simp only [Visitor.traced, visit, hanswer]
    obtain ⟨calls, hstate, hnodes, hdecides⟩ := ih (before ++ [⟨n, .ok answer⟩])
    refine ⟨⟨n, .ok answer⟩ :: calls, ?_, ?_, hdecides.cons hgoes⟩
    · rw [hrun, after_state, after_state, hstate, List.append_assoc, List.singleton_append]
    · rw [List.map_cons, hnodes, after_visited]

/-! ### Walks -/

/-- The record that should be left after so many calls: the walk's end, unless it failed. -/
def recordOf (name : String) (calls : Nat) : Except ε Bool → List Record
  | .ok true => [⟨.debug, .walk, name ++ " visited " ++ toString calls ++ " node(s)"⟩]
  | .ok false => [⟨.debug, .walk, name ++ " halted walk after " ++ toString calls ++ " node(s)"⟩]
  | .error _ => []

theorem records_eq (name : String) (w : Walk σ ε) :
    w.records name = recordOf name w.visited.length w.returned := by
  obtain ⟨visited, state, ending⟩ := w
  cases ending with
  | covered => rfl
  | halted => rfl
  | failed cause => rfl

theorem returned_eq_false_iff (w : Walk σ ε) : w.returned = .ok false ↔ w.ending = .halted := by
  obtain ⟨visited, state, ending⟩ := w
  cases ending with
  | covered => simp [returned]
  | halted => simp [returned]
  | failed cause => simp [returned]

theorem returned_eq_error_iff (w : Walk σ ε) (cause : ε) :
    w.returned = .error cause ↔ w.ending = .failed cause := by
  obtain ⟨visited, state, ending⟩ := w
  cases ending with
  | covered => simp [returned]
  | halted => simp [returned]
  | failed other => simp [returned]

/-- **A walk is the depth-first traversal of its tree**, for every visitor, whatever its answers depend
on.

1. It is the traversal by recursion: the same nodes in the same order, the same last state, the same
   ending.  It ends after at most as many calls as the tree has nodes.
2. The nodes it visited are those that the visitor was called with, and its last state is the one that
   the calls have left, also after a failure.
3. It returns false exactly when a call was answered with a halt, and fails with a cause exactly when a
   call failed with it; such a call is the last one.
4. Its record counts the calls. -/
theorem walk_is_traversal (visitor : Visitor σ ε) (root : Node) (state : σ) :
    ∃ calls,
      root.walk visitor state = root.traverse visitor state ∧
      calls.length ≤ root.size ∧
      (root.walk visitor.traced (state, [])).state = ((root.walk visitor state).state, calls) ∧
      (root.walk visitor state).visited = calls.map Call.node ∧
      ((root.walk visitor state).returned = .ok false ↔
        ∃ call ∈ calls, call.answer = .ok (some .halt)) ∧
      (∀ cause, (root.walk visitor state).returned = .error cause ↔
        ∃ call ∈ calls, call.answer = .error cause) ∧
      (∀ call ∈ calls.dropLast, call.goesOn = true) ∧
      ∀ name, (root.walk visitor state).records name =
        recordOf name calls.length (root.walk visitor state).returned := by
  obtain ⟨calls, hstate, hnodes, hdecides⟩ := run_traced visitor [root] state []
  have hlength : (root.walk visitor state).visited.length = calls.length := by
    rw [Node.walk, ← hnodes, List.length_map]
  refine ⟨calls, walk_eq_traverse visitor root state, ?_, hstate, hnodes.symm, ?_, ?_, ?_, ?_⟩
  · have hle := length_visited_le visitor [root] state
    rw [Node.sizeAll, Node.sizeAll, Nat.add_zero] at hle
    rw [← hlength]
    exact hle
  · rw [returned_eq_false_iff]
    exact hdecides.halted_iff
  · intro cause
    rw [returned_eq_error_iff]
    exact hdecides.failed_iff cause
  · exact hdecides.goesOn_dropLast
  · intro name
    rw [records_eq, hlength]

/-- Goes past the node `b`, and stops for good at the third node that it is shown. -/
def patientVisitor : Visitor Nat Unit := fun n seen =>
  if seen = 2 then ⟨.ok (some .halt), seen + 1⟩
  else if n.kind = "b" then ⟨.ok none, seen + 1⟩
  else ⟨.ok (some .visitChildren), seen + 1⟩

example :
    let tree : Node := ⟨"a", 0, 3, true,
      [⟨"b", 0, 1, true, [⟨"c", 0, 1, true, []⟩]⟩, ⟨"d", 1, 2, true, [⟨"e", 1, 2, true, []⟩]⟩,
        ⟨"f", 2, 3, true, []⟩]⟩
    let w := tree.walk patientVisitor 0
    w.visited.map Node.kind = ["a", "b", "d"] ∧ w.state = 3 ∧
      w.records "test" = [⟨.debug, .walk, "test halted walk after 3 node(s)"⟩] := by
  decide +kernel

end Walk

end TreeLint
