/-
  TreeLint/Proofs/Addresses.lean
  ==============================
  **Where a node stands.**  Two nodes of a tree can be equal, and a node as a value does not tell them
  apart.  Its address does: which child it is of its parent, which child the parent is, and so on up to
  the root.  The addresses above an address are what is left of it after some steps up, so "above" is the
  order of the suffixes of a list.

  A spot is a node at its address, and a tree's spots in document order are its nodes in document order
  (`map_node_below`).  That order is the one in which the ways from the root are compared step by step
  (`pairwise_before`), so nothing stands before what is above it, and no address comes twice
  (`pairwise_below`).

  If some addresses are open, a node can be reached when everything above it is open.  What can be reached
  from a spot obeys one equation (`reach_eq`): the spot itself and, if it is open, what can be reached
  from its children.
-/
import Mathlib.Data.List.Basic
import TreeLint.Proofs.TreeOrder

namespace TreeLint

/-- Which child to take at each step from the root to a node, the last step first. -/
abbrev Address := List Nat

/-- The addresses above an address, the nearest first. -/
def Address.above : Address → List Address
  | [] => []
  | _ :: up => up :: Address.above up

theorem Address.mem_above_iff {p q : Address} : q ∈ p.above ↔ q <:+ p ∧ q ≠ p := by
  induction p with
  | nil => simp [Address.above]
  | cons i up ih =>
    rw [Address.above, List.mem_cons, ih, List.suffix_cons_iff]
    constructor
    · rintro (rfl | ⟨hsuffix, -⟩)
      · exact ⟨Or.inr (List.suffix_refl q), List.ne_cons_self⟩
      · refine ⟨Or.inr hsuffix, ?_⟩
        rintro rfl
        exact absurd hsuffix.length_le (by simp)
    · rintro ⟨rfl | hsuffix, hne⟩
      · exact absurd rfl hne
      · by_cases heq : q = up
        · exact Or.inl heq
        · exact Or.inr ⟨hsuffix, heq⟩

structure Spot where
  address : Address
  node : Node

namespace Node

mutual

/-- The spots of a tree in document order, for a tree that stands at the given address. -/
def spots (address : Address) : Node → List Spot
  | ⟨kind, start, stop, named, children⟩ =>
    ⟨address, ⟨kind, start, stop, named, children⟩⟩ :: spotsAll address 0 children

/-- The spots of several trees that stand side by side below an address, the first as child number `i`. -/
def spotsAll (address : Address) (i : Nat) : List Node → List Spot
  | [] => []
  | n :: rest => spots (i :: address) n ++ spotsAll address (i + 1) rest

end

end Node

namespace Spot

def children (x : Spot) : List Spot :=
  x.node.children.zipIdx.map fun (c, i) => ⟨i :: x.address, c⟩

/-- The spot and everything below it, in document order. -/
def below (x : Spot) : List Spot := x.node.spots x.address

@[simp] theorem map_node_children (x : Spot) : x.children.map Spot.node = x.node.children := by
  rw [children, List.map_map]
  exact List.zipIdx_map_fst 0 x.node.children

theorem address_of_mem_children {x c : Spot} (h : c ∈ x.children) : ∃ i, c.address = i :: x.address := by
  obtain ⟨⟨n, i⟩, -, rfl⟩ := List.mem_map.mp h
  exact ⟨i, rfl⟩

theorem node_of_mem_children {x c : Spot} (h : c ∈ x.children) : c.node ∈ x.node.children := by
  rw [← map_node_children]
  exact List.mem_map_of_mem h

theorem pairwise_children (x : Spot) : x.children.Pairwise fun c d =>
    ∃ i j, i < j ∧ c.address = i :: x.address ∧ d.address = j :: x.address := by
  have hindices : (x.node.children.zipIdx.map Prod.snd).Pairwise (· < ·) := by
    rw [List.zipIdx_map_snd]
    exact List.pairwise_lt_range'
  rw [children, List.pairwise_map]
  refine (List.pairwise_map.mp hindices).imp ?_
  rintro ⟨c, i⟩ ⟨d, j⟩ hlt
  exact ⟨i, j, hlt, rfl, rfl⟩

/-! ### Document order -/

theorem spotsAll_eq (address : Address) (i : Nat) (ns : List Node) :
    Node.spotsAll address i ns = (ns.zipIdx i).flatMap fun (c, j) => c.spots (j :: address) := by
  induction ns generalizing i with
  | nil => rfl
  | cons n ns ih => rw [Node.spotsAll, ih, List.zipIdx_cons, List.flatMap_cons]

theorem below_eq (x : Spot) : x.below = x :: x.children.flatMap below := by
  obtain ⟨address, kind, start, stop, named, children⟩ := x
  rw [below, Node.spots, spotsAll_eq, Spot.children, List.flatMap_map]
  rfl

theorem childInduction {motive : Spot → Prop}
    (step : ∀ x : Spot, (∀ c ∈ x.children, motive c) → motive x) (x : Spot) : motive x := by
  obtain ⟨address, n⟩ := x
  induction n using Node.childInduction generalizing address with
  | step n ih =>
    apply step
    intro c hc
    exact ih c.node (node_of_mem_children hc) c.address

theorem map_node_below (x : Spot) : x.below.map Spot.node = x.node.preorder := by
  induction x using childInduction with
  | step x ih =>
    rw [below_eq, Node.preorder_eq, Node.descendants_eq, List.map_cons, List.map_flatMap,
      ← map_node_children, List.flatMap_map]
    congr 1
    exact List.flatMap_congr ih

theorem address_suffix {x y : Spot} (h : y ∈ x.below) : x.address <:+ y.address := by
  induction x using childInduction with
  | step x ih =>
    rw [below_eq] at h
    rcases List.mem_cons.mp h with rfl | h
    · exact List.suffix_refl _
    · obtain ⟨c, hc, hy⟩ := List.mem_flatMap.mp h
      obtain ⟨i, haddress⟩ := address_of_mem_children hc
      exact (haddress ▸ List.suffix_cons i x.address).trans (ih c hc hy)

theorem address_mem_above {x c y : Spot} (hc : c ∈ x.children) (hy : y ∈ c.below) :
    x.address ∈ y.address.above := by
  obtain ⟨i, haddress⟩ := address_of_mem_children hc
  have hsuffix : i :: x.address <:+ y.address := haddress ▸ address_suffix hy
  refine Address.mem_above_iff.mpr ⟨(List.suffix_cons i x.address).trans hsuffix, ?_⟩
  intro heq
  rw [← heq] at hsuffix
  exact absurd hsuffix.length_le (by simp)

/-- Of two spots, the one that a reader comes to first: the ways from the root are compared step by step,
so a spot is before what is below it, and where two ways part, the earlier child is before the later. -/
def Before (y z : Spot) : Prop := List.Lex (· < ·) y.address.reverse z.address.reverse

theorem Before.asymm {y z : Spot} (h : y.Before z) : ¬ z.Before y := List.lt_asymm h

theorem Before.not_suffix {y z : Spot} (h : y.Before z) : ¬ z.address <:+ y.address := by
  intro hsuffix
  have hnot : ¬ List.Lex (· < ·) y.address.reverse z.address.reverse :=
    (List.reverse_prefix.mpr hsuffix).le
  exact hnot h

theorem exists_way {x y : Spot} {i : Nat} {up : Address} (hx : x.address = i :: up)
    (hy : y ∈ x.below) : ∃ way, y.address.reverse = up.reverse ++ i :: way := by
  obtain ⟨rest, hrest⟩ := address_suffix hy
  refine ⟨rest.reverse, ?_⟩
  rw [← hrest, hx]
  simp

/-- Document order is the order of the ways from the root. -/
theorem pairwise_before (x : Spot) : x.below.Pairwise Before := by
  induction x using childInduction with
  | step x ih =>
    rw [below_eq, List.pairwise_cons, List.pairwise_flatMap]
    refine ⟨?_, ih, ?_⟩
    · intro z hz
      obtain ⟨c, hc, hz⟩ := List.mem_flatMap.mp hz
      obtain ⟨i, hi⟩ := address_of_mem_children hc
      obtain ⟨way, hway⟩ := exists_way hi hz
      have hlonger : List.Lex (· < ·) (x.address.reverse ++ []) (x.address.reverse ++ i :: way) :=
        List.append_left_lt (List.nil_lt_cons i way)
      rwa [List.append_nil, ← hway] at hlonger
    · refine x.pairwise_children.imp ?_
      rintro c d ⟨i, j, hlt, hi, hj⟩ y hy z hz
      obtain ⟨way, hway⟩ := exists_way hi hy
      obtain ⟨way', hway'⟩ := exists_way hj hz
      rw [Before, hway, hway']
      exact List.append_left_lt (List.cons_lt_cons_iff.mpr (Or.inl hlt))

theorem pairwise_below (x : Spot) : x.below.Pairwise fun y z => ¬ z.address <:+ y.address :=
  x.pairwise_before.imp Before.not_suffix

/-! ### What can be reached -/

/-- The spots at and below a spot with nothing above them but open addresses. -/
def reach (opened : Address → Bool) (x : Spot) : List Spot :=
  x.below.filter fun y => y.address.above.all opened

theorem all_above_of_mem_children {opened : Address → Bool} {x c : Spot} (hc : c ∈ x.children)
    (habove : x.address.above.all opened = true) (hopened : opened x.address = true) :
    c.address.above.all opened = true := by
  obtain ⟨i, haddress⟩ := address_of_mem_children hc
  rw [haddress, Address.above, List.all_cons, hopened, habove]
  rfl

/-- A spot with nothing but open addresses above it can be reached, and if it is open itself, so can be what
its children can reach. -/
theorem reach_eq {opened : Address → Bool} {x : Spot} (habove : x.address.above.all opened = true) :
    x.reach opened = x :: if opened x.address then x.children.flatMap (reach opened) else [] := by
  rw [reach, below_eq, List.filter_cons, if_pos habove, List.filter_flatMap]
  congr 1
  split
  · rfl
  · next hclosed =>
    rw [List.flatMap_eq_nil_iff]
    intro c hc
    rw [List.filter_eq_nil_iff]
    intro y hy hall
    exact hclosed (List.all_eq_true.mp hall _ (address_mem_above hc hy))

end Spot

end TreeLint
