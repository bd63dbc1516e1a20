/-
  TreeLint/Proofs/TreeOrder.lean
  ==============================
  **Sites in a tree and their order.**  A node as a value does not say where it stands: two nodes of a
  tree can be equal.  A site is a node together with the nodes above it, and a tree's sites in document
  order are its nodes in document order (`map_node_sites`).  With sites it can be said which nodes of a
  class are outermost: those that have no node of the class above them.

  The outermost nodes obey one equation (`outermost_eq`): a node of the class is the only one of its
  tree, and any other node leaves the question to its children.  What is proved about them is proved by
  this equation and induction on children.

  A tree is nested when each span runs forwards, children lie inside their parent, and of two children
  the earlier one ends before the later one begins.  In a nested tree the outermost nodes of a class
  follow each other without overlap (`pairwise_outermost`).
-/
import Mathlib.Data.List.Basic
import TreeLint.Tree.Node

namespace TreeLint

/-- A node and the nodes above it, the nearest first. -/
structure Site where
  ancestors : List Node
  node : Node

namespace Node

/-! ### Induction on children -/

/-- What holds of a node when it holds of its children holds of every node. -/
@[elab_as_elim]
theorem childInduction {motive : Node → Prop}
    (step : ∀ n : Node, (∀ c ∈ n.children, motive c) → motive n) (n : Node) : motive n := by
  refine Node.preorder.induct motive (fun ns => ∀ c ∈ ns, motive c) ?_ ?_ ?_ n
  · intro kind start stop named children ih
    exact step ⟨kind, start, stop, named, children⟩ ih
  · intro c hc
    cases hc
  · intro m rest hm hrest c hc
    rcases List.mem_cons.mp hc with rfl | hc
    · exact hm
    · exact hrest c hc

theorem preorderAll_eq (ns : List Node) : preorderAll ns = ns.flatMap preorder := by
  induction ns with
  | nil => rfl
  | cons n ns ih => rw [preorderAll, ih, List.flatMap_cons]

theorem preorder_eq (n : Node) : n.preorder = n :: n.descendants := by
  cases n; rfl

theorem descendants_eq (n : Node) : n.descendants = n.children.flatMap preorder :=
  preorderAll_eq n.children

theorem mem_preorder_self (n : Node) : n ∈ n.preorder := by
  rw [preorder_eq]; exact List.mem_cons_self

theorem mem_preorder_of_mem_descendants {m n : Node} (hm : m ∈ n.descendants) :
    m ∈ n.preorder := by
  rw [preorder_eq]; exact List.mem_cons_of_mem n hm

theorem mem_descendants_of_child {m c n : Node} (hc : c ∈ n.children) (hm : m ∈ c.preorder) :
    m ∈ n.descendants := by
  rw [descendants_eq]; exact List.mem_flatMap.mpr ⟨c, hc, hm⟩

theorem mem_preorder_of_child {m c n : Node} (hc : c ∈ n.children) (hm : m ∈ c.preorder) :
    m ∈ n.preorder :=
  mem_preorder_of_mem_descendants (mem_descendants_of_child hc hm)

theorem mem_preorder_trans {l m n : Node} (hl : l ∈ m.preorder) (hm : m ∈ n.preorder) :
    l ∈ n.preorder := by
  induction n using childInduction with
  | step n ih =>
    rw [preorder_eq, descendants_eq] at hm
    rcases List.mem_cons.mp hm with rfl | hm
    · exact hl
    · obtain ⟨c, hc, hm⟩ := List.mem_flatMap.mp hm
      exact mem_preorder_of_child hc (ih c hc hm)

/-! ### Sites -/

mutual

/-- The sites of a tree in document order, for a tree that stands below the given nodes. -/
def sites (above : List Node) : Node → List Site
  | ⟨kind, start, stop, named, children⟩ =>
    ⟨above, ⟨kind, start, stop, named, children⟩⟩ ::
      sitesAll (⟨kind, start, stop, named, children⟩ :: above) children

/-- The sites of several trees that stand side by side. -/
def sitesAll (above : List Node) : List Node → List Site
  | [] => []
  | n :: rest => sites above n ++ sitesAll above rest

end

/-- The nodes of a class that have no node of the class above them, in document order. -/
def outermost (p : Node → Bool) (root : Node) : List Node :=
  ((root.sites []).filter fun x => p x.node && x.ancestors.all (!p ·)).map Site.node

theorem sitesAll_eq (above : List Node) (ns : List Node) :
    sitesAll above ns = ns.flatMap (sites above) := by
  induction ns with
  | nil => rfl
  | cons n ns ih => rw [sitesAll, ih, List.flatMap_cons]

theorem sites_eq (above : List Node) (n : Node) :
    n.sites above = ⟨above, n⟩ :: n.children.flatMap (sites (n :: above)) := by
  cases n with
  | mk kind start stop named children => rw [sites, sitesAll_eq]

/-- Sites are in document order. -/
theorem map_node_sites (above : List Node) (n : Node) :
    (n.sites above).map Site.node = n.preorder := by
  induction n using childInduction generalizing above with
  | step n ih =>
    rw [sites_eq, preorder_eq, descendants_eq, List.map_cons, List.map_flatMap]
    congr 1
    exact List.flatMap_congr fun c hc => ih c hc (n :: above)

/-! ### Outermost nodes -/

section Outermost

variable {p : Node → Bool}

/-- Below a node of the class nothing is outermost. -/
theorem filter_sites_of_above {above : List Node} (habove : ∃ a ∈ above, p a = true) (n : Node) :
    (n.sites above).filter (fun x => p x.node && x.ancestors.all (!p ·)) = [] := by
  induction n using childInduction generalizing above with
  | step n ih =>
    obtain ⟨a, ha, hpa⟩ := habove
    have hall : above.all (!p ·) = false :=
      List.all_eq_false.mpr ⟨a, ha, by rw [hpa]; exact Bool.false_ne_true⟩
    have hchildren : (n.children.flatMap (sites (n :: above))).filter
        (fun x => p x.node && x.ancestors.all (!p ·)) = [] := by
      rw [List.filter_flatMap, List.flatMap_eq_nil_iff]
      intro c hc
      exact ih c hc ⟨a, List.mem_cons_of_mem n ha, hpa⟩
    rw [sites_eq, List.filter_cons_of_neg (by simp [hall]), hchildren]

/-- With nothing of the class above it, a tree has the outermost nodes that it has on its own. -/
theorem outermost_of_above {above : List Node} (habove : ∀ a ∈ above, p a = false) (n : Node) :
    ((n.sites above).filter fun x => p x.node && x.ancestors.all (!p ·)).map Site.node =
      if p n then [n] else n.children.flatMap (outermost p) := by
  induction n using childInduction generalizing above with
  | step n ih =>
    have hall : above.all (!p ·) = true := by
      simp only [List.all_eq_true, Bool.not_eq_true']
      exact habove
    rw [sites_eq]
    cases hn : p n with
    | true =>
      have hchildren : (n.children.flatMap (sites (n :: above))).filter
          (fun x => p x.node && x.ancestors.all (!p ·)) = [] := by
        rw [List.filter_flatMap, List.flatMap_eq_nil_iff]
        intro c hc
        exact filter_sites_of_above ⟨n, List.mem_cons_self, hn⟩ c
      rw [List.filter_cons_of_pos (by simp [hn, hall]), hchildren, if_pos rfl]
      rfl
    | false =>
      rw [List.filter_cons_of_neg (by simp [hn]), List.filter_flatMap, List.map_flatMap,
        if_neg Bool.false_ne_true]
      apply List.flatMap_congr
      intro c hc
      have hbelow : ∀ a ∈ n :: above, p a = false := by
        intro a ha
        rcases List.mem_cons.mp ha with rfl | ha
        · exact hn
        · exact habove a ha
      -- what stands above the child makes no difference, as long as it is not of the class
      have hnone : ∀ a ∈ ([] : List Node), p a = false := fun a ha => by cases ha
      exact (ih c hc hbelow).trans (ih c hc hnone).symm

theorem outermost_eq (p : Node → Bool) (n : Node) :
    n.outermost p = if p n then [n] else n.children.flatMap (outermost p) :=
  outermost_of_above (fun a ha => by cases ha) n

theorem mem_outermost {n root : Node} (hn : n ∈ root.outermost p) :
    n ∈ root.preorder ∧ p n = true := by
  induction root using childInduction with
  | step root ih =>
    rw [outermost_eq] at hn
    split at hn
    · next hroot =>
      rw [List.mem_singleton.mp hn]
      exact ⟨mem_preorder_self root, hroot⟩
    · obtain ⟨c, hc, hn⟩ := List.mem_flatMap.mp hn
      obtain ⟨hmem, hp⟩ := ih c hc hn
      exact ⟨mem_preorder_of_child hc hmem, hp⟩

theorem mem_outermost_of_ne {n root : Node} (hn : n ∈ root.outermost p) (hne : n ≠ root) :
    p root = false ∧ n ∈ root.children.flatMap (outermost p) := by
  rw [outermost_eq] at hn
  cases hroot : p root with
  | true =>
    rw [hroot, if_pos rfl] at hn
    exact absurd (List.mem_singleton.mp hn) hne
  | false =>
    rw [hroot, if_neg Bool.false_ne_true] at hn
    exact ⟨rfl, hn⟩

end Outermost

/-! ### Nested trees -/

/-- Spans run forwards, children lie inside their parent, and they follow each other. -/
structure Nested (root : Node) : Prop where
  forward : ∀ n ∈ root.preorder, n.start ≤ n.stop
  inside : ∀ n ∈ root.preorder, ∀ c ∈ n.children, n.start ≤ c.start ∧ c.stop ≤ n.stop
  ordered : ∀ n ∈ root.preorder, n.children.Pairwise fun c d => c.stop ≤ d.start

/-- A nested tree whose root lies in the source. -/
structure WellFormed (s : Source) (root : Node) : Prop extends Nested root where
  inSource : root.stop ≤ s.size

/-- Comments have no children. -/
def LeafComments (root : Node) : Prop :=
  ∀ n ∈ root.preorder, n.isComment = true → n.children = []

instance (root : Node) : Decidable root.Nested :=
  decidable_of_iff
    ((∀ n ∈ root.preorder, n.start ≤ n.stop) ∧
      (∀ n ∈ root.preorder, ∀ c ∈ n.children, n.start ≤ c.start ∧ c.stop ≤ n.stop) ∧
      (∀ n ∈ root.preorder, n.children.Pairwise fun c d => c.stop ≤ d.start))
    ⟨fun h => ⟨h.1, h.2.1, h.2.2⟩, fun h => ⟨h.forward, h.inside, h.ordered⟩⟩

instance (s : Source) (root : Node) : Decidable (root.WellFormed s) :=
  decidable_of_iff (root.Nested ∧ root.stop ≤ s.size)
    ⟨fun h => { h.1 with inSource := h.2 }, fun h => ⟨h.toNested, h.inSource⟩⟩

instance (root : Node) : Decidable root.LeafComments :=
  inferInstanceAs (Decidable (∀ n ∈ root.preorder, n.isComment = true → n.children = []))

theorem Nested.of_mem {n root : Node} (h : root.Nested) (hn : n ∈ root.preorder) : n.Nested where
  forward m hm := h.forward m (mem_preorder_trans hm hn)
  inside m hm := h.inside m (mem_preorder_trans hm hn)
  ordered m hm := h.ordered m (mem_preorder_trans hm hn)

theorem Nested.of_child {c n : Node} (h : n.Nested) (hc : c ∈ n.children) : c.Nested :=
  h.of_mem (mem_preorder_of_child hc (mem_preorder_self c))

theorem Nested.start_le_stop {n : Node} (h : n.Nested) : n.start ≤ n.stop :=
  h.forward n (mem_preorder_self n)

/-- Everything in a nested tree lies inside its root. -/
theorem Nested.bounds {m n : Node} (h : n.Nested) (hm : m ∈ n.preorder) :
    n.start ≤ m.start ∧ m.stop ≤ n.stop := by
  induction n using childInduction with
  | step n ih =>
    rw [preorder_eq, descendants_eq] at hm
    rcases List.mem_cons.mp hm with rfl | hm
    · exact ⟨Nat.le_refl _, Nat.le_refl _⟩
    · obtain ⟨c, hc, hm⟩ := List.mem_flatMap.mp hm
      obtain ⟨hstart, hstop⟩ := ih c hc (h.of_child hc) hm
      obtain ⟨hcstart, hcstop⟩ := h.inside n (mem_preorder_self n) c hc
      exact ⟨Nat.le_trans hcstart hstart, Nat.le_trans hstop hcstop⟩

/-- The outermost nodes of a class follow each other: two of them are below different children of some
node, and the spans of the children are in order. -/
theorem pairwise_outermost (p : Node → Bool) {root : Node} (h : root.Nested) :
    (root.outermost p).Pairwise fun m n => m.stop ≤ n.start := by
  induction root using childInduction with
  | step root ih =>
    rw [outermost_eq]
    split
    · exact List.pairwise_singleton _ _
    · rw [List.pairwise_flatMap]
      refine ⟨fun c hc => ih c hc (h.of_child hc), ?_⟩
      refine List.Pairwise.imp_of_mem ?_ (h.ordered root (mem_preorder_self root))
      intro c d hc hd hcd m hm n hn
      have hmc := ((h.of_child hc).bounds (mem_outermost hm).1).2
      have hnd := ((h.of_child hd).bounds (mem_outermost hn).1).1
      exact Nat.le_trans hmc (Nat.le_trans hcd hnd)

end Node

end TreeLint
