/-
  TreeLint/Proofs/VisitOrder.lean
  ===============================
  **Which nodes a walk visits.**  The answers of a visitor say which nodes it opens.  A walk visits, in
  document order, the nodes that have nothing above them but opened nodes, and stops early only after a
  halt or a failure.

  To say this of nodes that may be equal, the walk is followed with the addresses of the trees that are
  still to be walked (`Walk.follow`).  Nothing else is changed: a visitor that keeps a log of what it is
  asked is asked the same, in the same order (`run_logging`).

  Two facts carry the argument, and both follow the steps of the walk.  The visited spots are spots of the
  pending trees in document order, with some left out (`follow_sublist`), so no address comes twice and
  each visited node has one answer.  Read with these answers, what can be reached from the pending trees
  begins with the visited spots, and is no more than these if no answer stopped the walk (`follow_reach`).

  The main statement is `walk_follows_answers`.  It also tells which nodes the handlers of a visitor get.
-/
import Mathlib.Data.List.Nodup
import TreeLint.Proofs.Addresses
import TreeLint.Proofs.Traversal

namespace TreeLint

variable {σ ε δ : Type}

/-- An answer that asks for the children of the node. -/
def Call.opens (call : Call ε) : Bool :=
  match call.answer with
  | .ok (some .visitChildren) => true
  | .ok (some .skipChildren) => false
  | .ok (some .halt) => false
  | .ok none => false
  | .error _ => false

/-- A node that was shown to a visitor at its address, and what came back. -/
structure Shown (ε : Type) where
  spot : Spot
  answer : Except ε (Option Action)

def Shown.call (x : Shown ε) : Call ε := ⟨x.spot.node, x.answer⟩

namespace Walk

/-- The walk over several trees, with their addresses: into the children of a node that is opened, past
those of any other, and not further than a node whose visit stops the walk. -/
def follow (visitor : Visitor σ ε) : List Spot → σ → List (Shown ε)
  | [], _ => []
  | x :: pending, state =>
    let visit := visitor x.node state
    let shown : Shown ε := ⟨x, visit.answer⟩
    if shown.call.opens then shown :: follow visitor (x.children ++ pending) visit.state
    else if shown.call.goesOn then shown :: follow visitor pending visit.state
    else [shown]
termination_by pending => Node.sizeAll (pending.map Spot.node)
decreasing_by
  · simp [Node.sizeAll, Node.size_eq x.node]
  · simp only [List.map_cons, Node.sizeAll, Node.size_eq x.node]; omega

variable {visitor : Visitor σ ε}

/-! ### One step of a walk -/

theorem run_of_opens {n : Node} {state : σ}
    (h : Call.opens ⟨n, (visitor n state).answer⟩ = true) (pending : List Node) :
    run visitor (n :: pending) state =
      (run visitor (n.children ++ pending) (visitor n state).state).after n := by
  rw [run]
  rcases hanswer : (visitor n state).answer with cause | (_ | action)
  · simp [hanswer, Call.opens] at h
  · simp [hanswer, Call.opens] at h
  · cases action with
    | visitChildren => rfl
    | skipChildren => simp [hanswer, Call.opens] at h
    | halt => simp [hanswer, Call.opens] at h

theorem run_of_passes {n : Node} {state : σ}
    (hopens : ¬ Call.opens ⟨n, (visitor n state).answer⟩ = true)
    (hgoes : Call.goesOn ⟨n, (visitor n state).answer⟩ = true) (pending : List Node) :
    run visitor (n :: pending) state = (run visitor pending (visitor n state).state).after n := by
  rw [run]
  rcases hanswer : (visitor n state).answer with cause | (_ | action)
  · simp [hanswer, Call.goesOn] at hgoes
  · rfl
  · cases action with
    | visitChildren => simp [hanswer, Call.opens] at hopens
    | skipChildren => rfl
    | halt => simp [hanswer, Call.goesOn] at hgoes

theorem run_of_stops {n : Node} {state : σ}
    (h : ¬ Call.goesOn ⟨n, (visitor n state).answer⟩ = true) (pending : List Node) :
    (run visitor (n :: pending) state).state = (visitor n state).state := by
  rw [run]
  rcases hanswer : (visitor n state).answer with cause | (_ | action)
  · rfl
  · simp [hanswer, Call.goesOn] at h
  · cases action with
    | visitChildren => simp [hanswer, Call.goesOn] at h
    | skipChildren => simp [hanswer, Call.goesOn] at h
    | halt => rfl

/-! ### The calls of a walk -/

/-- A visitor that also logs something about each call goes the same way, and its log is about the nodes
that are shown. -/
theorem run_logging {logger : Visitor (σ × List δ) ε} (log : Call ε → List δ)
    (hlogger : ∀ n state before, logger n (state, before) =
      ⟨(visitor n state).answer,
        ((visitor n state).state, before ++ log ⟨n, (visitor n state).answer⟩)⟩)
    (pending : List Spot) (state : σ) (before : List δ) :
    (run logger (pending.map Spot.node) (state, before)).state =
      ((run visitor (pending.map Spot.node) state).state,
        before ++ (follow visitor pending state).flatMap fun x => log x.call) := by
  have hanswer : ∀ n state before,
      (logger n (state, before)).answer = (visitor n state).answer := by
    intro n state before
    rw [hlogger]
  fun_induction follow visitor pending state generalizing before with
  | case1 state => simp [run]
  | case2 x pending state visit shown hopens ih =>
    rw [List.map_cons, run_of_opens (hanswer x.node state before ▸ hopens), run_of_opens hopens,
      after_state, after_state, hlogger, ← Spot.map_node_children, ← List.map_append, ih,
      List.flatMap_cons, List.append_assoc]
    rfl
  | case3 x pending state visit shown hopens hgoes ih =>
    rw [List.map_cons, run_of_passes (hanswer x.node state before ▸ hopens)
      (hanswer x.node state before ▸ hgoes), run_of_passes hopens hgoes, after_state, after_state,
      hlogger, ih, List.flatMap_cons, List.append_assoc]
    rfl
  | case4 x pending state visit shown hopens hstops =>
    rw [List.map_cons, run_of_stops (hanswer x.node state before ▸ hstops), run_of_stops hstops,
      hlogger, List.flatMap_cons, List.flatMap_nil, List.append_nil]
    rfl

/-! ### Document order -/

/-- The visited spots are among those of the pending trees, in document order. -/
theorem follow_sublist (visitor : Visitor σ ε) (pending : List Spot) (state : σ) :
    ((follow visitor pending state).map Shown.spot).Sublist (pending.flatMap Spot.below) := by
  fun_induction follow visitor pending state with
  | case1 state => exact List.Sublist.refl _
  | case2 x pending state visit shown hopens ih =>
    rw [List.flatMap_append] at ih
    rw [List.map_cons, List.flatMap_cons, Spot.below_eq, List.cons_append]
    exact ih.cons_cons x
  | case3 x pending state visit shown hopens hgoes ih =>
    rw [List.map_cons, List.flatMap_cons, Spot.below_eq, List.cons_append]
    exact (ih.trans (List.sublist_append_right _ _)).cons_cons x
  | case4 x pending state visit shown hopens hstops =>
    rw [List.flatMap_cons, Spot.below_eq, List.cons_append]
    exact (List.nil_sublist _).cons_cons x

/-- Where the answers decide which addresses are open, what can be reached from the pending trees begins
with the visited spots, and it is no more than these if no answer stopped the walk. -/
theorem follow_reach {opened : Address → Bool} (pending : List Spot) (state : σ)
    (habove : ∀ x ∈ pending, x.address.above.all opened = true)
    (hopened : ∀ y ∈ follow visitor pending state, opened y.spot.address = y.call.opens) :
    ∃ rest, pending.flatMap (Spot.reach opened) =
        (follow visitor pending state).map Shown.spot ++ rest ∧
      ((∀ y ∈ follow visitor pending state, y.call.goesOn = true) → rest = []) := by
  fun_induction follow visitor pending state with
  | case1 state => exact ⟨[], rfl, fun _ => rfl⟩
  | case2 x pending state visit shown hopens ih =>
    obtain ⟨hx, hrest⟩ := List.forall_mem_cons.mp habove
    obtain ⟨hshown, hlater⟩ := List.forall_mem_cons.mp hopened
    have hopen : opened x.address = true := hshown.trans hopens
    have hchildren : ∀ c ∈ x.children ++ pending, c.address.above.all opened = true := by
      intro c hc
      rcases List.mem_append.mp hc with hc | hc
      · exact Spot.all_above_of_mem_children hc hx hopen
      · exact hrest c hc
    obtain ⟨rest, hreach, hall⟩ := ih hchildren hlater
    refine ⟨rest, ?_, fun hgoes => hall (List.forall_mem_cons.mp hgoes).2⟩
    rw [List.flatMap_cons, Spot.reach_eq hx, if_pos hopen, List.cons_append, ← List.flatMap_append,
      hreach]
    rfl
  | case3 x pending state visit shown hopens hgoes ih =>
    obtain ⟨hx, hrest⟩ := List.forall_mem_cons.mp habove
    obtain ⟨hshown, hlater⟩ := List.forall_mem_cons.mp hopened
    have hclosed : ¬ opened x.address = true := fun h => hopens (hshown.symm.trans h)
    obtain ⟨rest, hreach, hall⟩ := ih hrest hlater
    refine ⟨rest, ?_, fun hgoes => hall (List.forall_mem_cons.mp hgoes).2⟩
    rw [List.flatMap_cons, Spot.reach_eq hx, if_neg hclosed, List.singleton_append, hreach]
    rfl
  | case4 x pending state visit shown hopens hstops =>
    obtain ⟨hx, -⟩ := List.forall_mem_cons.mp habove
    have hshown := hopened shown (List.mem_singleton_self shown)
    have hclosed : ¬ opened x.address = true := fun h => hopens (hshown.symm.trans h)
    refine ⟨pending.flatMap (Spot.reach opened), ?_,
      fun hgoes => absurd (hgoes shown (List.mem_singleton_self shown)) hstops⟩
    rw [List.flatMap_cons, Spot.reach_eq hx, if_neg hclosed]
    rfl

end Walk

/-! ### What the answers lead to -/

/-- An address where a node was shown and opened. -/
def openedAt (shown : List (Shown ε)) (address : Address) : Bool :=
  shown.any fun x => x.spot.address == address && x.call.opens

namespace Node

def follow (root : Node) (visitor : Visitor σ ε) (state : σ) : List (Shown ε) :=
  Walk.follow visitor [⟨[], root⟩] state

/-- The nodes of a tree, in document order, that have nothing above them but nodes that were shown and
opened. -/
def reached (root : Node) (shown : List (Shown ε)) : List Spot :=
  (root.spots []).filter fun x => x.address.above.all (openedAt shown)

/-- The nodes that were shown are the first of those that the answers lead to, and all of them if no answer
was a halt or a failure; such an answer is the last one.  No node is shown twice, and none before its
parent. -/
structure Follows (root : Node) (shown : List (Shown ε)) : Prop where
  first : shown.map Shown.spot <+: root.reached shown
  all : (∀ x ∈ shown, x.call.goesOn = true) → shown.map Shown.spot = root.reached shown
  last : ∀ before x after, shown = before ++ x :: after → x.call.goesOn = false → after = []
  distinct : (shown.map (·.spot.address)).Nodup
  afterParent : ∀ before x after, shown = before ++ x :: after →
    ∀ i up, x.spot.address = i :: up → ∃ y ∈ before, y.spot.address = up

variable {root : Node} {visitor : Visitor σ ε} {state : σ}

theorem pairwise_follow (root : Node) (visitor : Visitor σ ε) (state : σ) :
    (root.follow visitor state).Pairwise fun x y => ¬ y.spot.address <:+ x.spot.address := by
  have hsublist := Walk.follow_sublist visitor [⟨[], root⟩] state
  rw [List.flatMap_singleton] at hsublist
  exact List.pairwise_map.mp ((Spot.pairwise_below ⟨[], root⟩).sublist hsublist)

theorem nodup_follow (root : Node) (visitor : Visitor σ ε) (state : σ) :
    ((root.follow visitor state).map (·.spot.address)).Nodup := by
  refine List.pairwise_map.mpr ((root.pairwise_follow visitor state).imp ?_)
  intro x y hnot heq
  exact hnot (heq ▸ List.suffix_refl _)

/-- As no address comes twice, a node that was shown is open by its own answer. -/
theorem openedAt_follow {x : Shown ε} (hx : x ∈ root.follow visitor state) :
    openedAt (root.follow visitor state) x.spot.address = x.call.opens := by
  rw [Bool.eq_iff_iff, openedAt, List.any_eq_true]
  constructor
  · rintro ⟨y, hy, hyx⟩
    obtain ⟨haddress, hopens⟩ := Bool.and_eq_true_iff.mp hyx
    rwa [← List.inj_on_of_nodup_map (root.nodup_follow visitor state) hy hx (by simpa using haddress)]
  · intro hopens
    exact ⟨x, hx, by simp [hopens]⟩

theorem reached_follow (root : Node) (visitor : Visitor σ ε) (state : σ) :
    ∃ rest, root.reached (root.follow visitor state) =
        (root.follow visitor state).map Shown.spot ++ rest ∧
      ((∀ x ∈ root.follow visitor state, x.call.goesOn = true) → rest = []) := by
  have hroot : ∀ x ∈ [(⟨[], root⟩ : Spot)],
      x.address.above.all (openedAt (root.follow visitor state)) = true := by
    intro x hx
    rw [List.mem_singleton.mp hx]
    rfl
  have hreach := Walk.follow_reach [⟨[], root⟩] state hroot fun x hx => openedAt_follow hx
  rwa [List.flatMap_singleton] at hreach

theorem traced_follow (root : Node) (visitor : Visitor σ ε) (state : σ) :
    (root.walk visitor.traced (state, [])).state =
      ((root.walk visitor state).state, (root.follow visitor state).map Shown.call) := by
  have hlogger : ∀ n state before, visitor.traced n (state, before) =
      ⟨(visitor n state).answer,
        ((visitor n state).state, before ++ [⟨n, (visitor n state).answer⟩])⟩ := fun _ _ _ => rfl
  have hlog := Walk.run_logging (fun call => [call]) hlogger [⟨[], root⟩] state []
  rwa [List.nil_append, ← List.map_eq_flatMap] at hlog

theorem visited_follow (root : Node) (visitor : Visitor σ ε) (state : σ) :
    (root.walk visitor state).visited = (root.follow visitor state).map (·.spot.node) ∧
      ∀ x ∈ (root.follow visitor state).dropLast, x.call.goesOn = true := by
  obtain ⟨calls, hstate, hnodes, hdecides⟩ := Walk.run_traced visitor [root] state []
  have hcalls : calls = (root.follow visitor state).map Shown.call := by
    have htraced := root.traced_follow visitor state
    rw [Node.walk, hstate] at htraced
    exact (Prod.mk.inj htraced).2
  refine ⟨?_, ?_⟩
  · rw [Node.walk, ← hnodes, hcalls, List.map_map]
    rfl
  · intro x hx
    apply hdecides.goesOn_dropLast
    rw [hcalls, ← List.map_dropLast]
    exact List.mem_map_of_mem hx

/-- A node is shown only below nodes that were shown and opened before. -/
theorem parent_of_follow {before after : List (Shown ε)} {x : Shown ε}
    (h : root.follow visitor state = before ++ x :: after) {i : Nat} {up : Address}
    (hup : x.spot.address = i :: up) : ∃ y ∈ before, y.spot.address = up := by
  have hx : x ∈ root.follow visitor state := by
    rw [h]
    simp
  obtain ⟨rest, hreached, -⟩ := root.reached_follow visitor state
  have hspot : x.spot ∈ root.reached (root.follow visitor state) := by
    rw [hreached]
    exact List.mem_append_left rest (List.mem_map_of_mem hx)
  have habove : openedAt (root.follow visitor state) up = true := by
    apply List.all_eq_true.mp (List.mem_filter.mp hspot).2
    rw [hup]
    exact List.mem_cons_self
  obtain ⟨y, hy, hopens⟩ := List.any_eq_true.mp habove
  have hyup : y.spot.address = up := by simpa using (Bool.and_eq_true_iff.mp hopens).1
  have hsuffix : y.spot.address <:+ x.spot.address := by
    rw [hyup, hup]
    exact List.suffix_cons i up
  -- in document order a parent does not stand behind its child
  have hpairwise := root.pairwise_follow visitor state
  rw [h] at hy hpairwise
  rcases List.mem_append.mp hy with hy | hy
  · exact ⟨y, hy, hyup⟩
  · rcases List.mem_cons.mp hy with rfl | hy
    · exact absurd (hyup.symm.trans hup) List.ne_cons_self
    · exact absurd hsuffix ((List.pairwise_cons.mp (List.pairwise_append.mp hpairwise).2.1).1 y hy)

theorem follows_follow (root : Node) (visitor : Visitor σ ε) (state : σ) :
    root.Follows (root.follow visitor state) := by
  obtain ⟨rest, hreached, hall⟩ := root.reached_follow visitor state
  refine ⟨⟨rest, hreached.symm⟩, ?_, ?_, root.nodup_follow visitor state, ?_⟩
  · intro hgoes
    rw [hreached, hall hgoes, List.append_nil]
  · intro before x after hshown hstops
    by_contra hafter
    have hgoes := (root.visited_follow visitor state).2 x (by
      rw [hshown, List.dropLast_append_of_ne_nil (List.cons_ne_nil x after),
        List.dropLast_cons_of_ne_nil hafter]
      simp)
    rw [hstops] at hgoes
    cases hgoes
  · intro before x after hshown i up hup
    exact parent_of_follow hshown hup

end Node

/-! ### Handlers -/

/-- Handlers that also keep a list of their calls: the kind that a handler is for, and the node that it
got. -/
def Visitor.noting (handler? : String → Option (Visitor σ ε)) (kind : String) :
    Option (Visitor (σ × List (String × Node)) ε) :=
  (handler? kind).map fun handler n (state, calls) =>
    let visit := handler n state
    ⟨visit.answer, (visit.state, calls ++ [(kind, n)])⟩

/-- The call that a handler gets for a node, if one does. -/
def Visitor.handled (handler? : String → Option (Visitor σ ε)) (n : Node) : List (String × Node) :=
  if n.named && (handler? n.kind).isSome then [(n.kind, n)] else []

namespace Visitor

variable {handler? : String → Option (Visitor σ ε)}

theorem dispatch_noting (n : Node) (state : σ) (before : List (String × Node)) :
    dispatch (noting handler?) n (state, before) =
      ⟨(dispatch handler? n state).answer,
        ((dispatch handler? n state).state, before ++ handled handler? n)⟩ := by
  unfold dispatch noting handled
  by_cases hnamed : n.named = true
  · cases hhandler : handler? n.kind with
    | none => simp [hnamed]
    | some handler => simp [hnamed]
  · simp [hnamed]

theorem handled_of_kind {kind : String} (hkind : (handler? kind).isSome = true) (ns : List Node) :
    ((ns.flatMap (handled handler?)).filter (·.1 == kind)).map Prod.snd =
      ns.filter fun n => n.named && n.kind == kind := by
  induction ns with
  | nil => rfl
  | cons n ns ih =>
    rw [List.flatMap_cons, List.filter_append, List.map_append, ih]
    unfold handled
    by_cases hn : n.kind = kind
    · cases hnamed : n.named <;> simp [hn, hkind, hnamed]
    · split <;> simp [hn]

end Visitor

/-- **A walk goes where the answers lead**, for every tree and every visitor.

1. The calls that a visitor gets are for the nodes that are shown, in that order.
2. These are the first, in document order, of the nodes that have nothing above them but nodes that were
   shown and opened: all of them, if no answer was a halt or a failure, and else those up to the first
   such answer.  No node is shown twice, and none before its parent.
3. A handler is called for the nodes that are shown, are named and have its kind, and for no others. -/
theorem walk_follows_answers (root : Node) (state : σ) :
    (root.spots []).map Spot.node = root.preorder ∧
    (∀ visitor : Visitor σ ε,
      (root.walk visitor.traced (state, [])).state =
          ((root.walk visitor state).state, (root.follow visitor state).map Shown.call) ∧
        (root.walk visitor state).visited = (root.follow visitor state).map (·.spot.node) ∧
        root.Follows (root.follow visitor state)) ∧
    ∀ (handler? : String → Option (Visitor σ ε)) (kind : String), (handler? kind).isSome = true →
      let noted := (root.walk (Visitor.dispatch (Visitor.noting handler?)) (state, [])).state
      noted.1 = (root.walk (Visitor.dispatch handler?) state).state ∧
        (noted.2.filter (·.1 == kind)).map Prod.snd =
          ((root.follow (Visitor.dispatch handler?) state).map (·.spot.node)).filter
            fun n => n.named && n.kind == kind := by
  refine ⟨Spot.map_node_below ⟨[], root⟩, ?_, ?_⟩
  · intro visitor
    exact ⟨root.traced_follow visitor state, (root.visited_follow visitor state).1,
      root.follows_follow visitor state⟩
  · intro handler? kind hkind noted
    have hnoted : noted = ((root.walk (Visitor.dispatch handler?) state).state,
        [] ++ (root.follow (Visitor.dispatch handler?) state).flatMap
          fun x => Visitor.handled handler? x.call.node) :=
      Walk.run_logging (fun call => Visitor.handled handler? call.node) Visitor.dispatch_noting
        [⟨[], root⟩] state []
    refine ⟨by rw [hnoted], ?_⟩
    rw [hnoted, List.nil_append, ← Visitor.handled_of_kind hkind, List.flatMap_map]
    rfl

/-- Goes past the second node that it is shown, and opens all others. -/
def fickleVisitor : Visitor Nat Unit := fun _ seen =>
  ⟨.ok (some (if seen = 1 then .skipChildren else .visitChildren)), seen + 1⟩

-- the two children are equal, and only the second is opened
example :
    let twin : Node := ⟨"b", 0, 1, true, [⟨"c", 0, 1, true, []⟩]⟩
    let root : Node := ⟨"a", 0, 1, true, [twin, twin]⟩
    (root.follow fickleVisitor 0).map (·.spot.address) = [[], [0], [1], [0, 1]] := by
  decide +kernel

end TreeLint
