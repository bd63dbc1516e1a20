/-
  TreeLint/Proofs/TokenEdges.lean
  ===============================
  **Does a node's content begin and end with a token?**  Tokens are the leaves that are no comments.  In a
  tree whose leaves account for everything visible (`Tokenized`), the content of a node should reach from
  its first token to its last.

  Contents never cut a token off.  But comments are left out of a content only where they are children of
  the node itself, in front of all other children or behind them.  A visible comment that hangs deeper,
  at the edge of a child, stays in.  So the content is exactly what lies between the tokens if, and only
  if, every visible comment before the first token or after the last one hangs at the node itself
  (`contentSpan_eq_tokens_iff`).  This is so for a node whose children are leaves
  (`Tokenized.clearEdges_of_flat`), and there are nodes for which it is not
  (`content_covers_edge_comment`).

  Both edges are alike: what is said of the children in order is said of the children in reverse order
  for the other edge (`rel_of_mem_takeWhile`, `exists_of_not_mem_takeWhile`).
-/
import Mathlib.Data.List.Pairwise
import TreeLint.Diagnostic
import TreeLint.Proofs.ContentSpan

namespace TreeLint

/-! ### Runs at the beginning of a list -/

section Runs

variable {α : Type} {p : α → Bool} {xs : List α} {R : α → α → Prop}

theorem any_getElem?_takeWhile (p : α → Bool) (xs : List α) :
    xs[(xs.takeWhile p).length]?.any p = false := by
  induction xs with
  | nil => rfl
  | cons x xs ih =>
    cases hx : p x with
    | true => simpa [hx] using ih
    | false => simp [hx]

/-- What belongs to the leading run comes before everything that is not of its class. -/
theorem rel_of_mem_takeWhile {m t : α} (hR : xs.Pairwise R) (hm : m ∈ xs.takeWhile p) (ht : t ∈ xs)
    (hp : p t = false) : R m t := by
  rw [← List.takeWhile_append_dropWhile (p := p) (l := xs)] at hR ht
  rcases List.mem_append.mp ht with hrun | hrest
  · rw [List.mem_takeWhile_imp hrun] at hp
    cases hp
  · exact (List.pairwise_append.mp hR).2.2 m hm t hrest

/-- What is of the class and yet not in the leading run comes after something that is not of the
class. -/
theorem exists_of_not_mem_takeWhile {c : α} (hR : xs.Pairwise R) (hc : c ∈ xs) (hp : p c = true)
    (hnot : c ∉ xs.takeWhile p) : ∃ x ∈ xs, p x = false ∧ R x c := by
  have hrest : c ∈ xs.dropWhile p := by
    rw [← List.takeWhile_append_dropWhile (p := p) (l := xs)] at hc
    exact (List.mem_append.mp hc).resolve_left hnot
  have hordered : (xs.dropWhile p).Pairwise R := hR.sublist (List.dropWhile_sublist p)
  cases hdrop : xs.dropWhile p with
  | nil =>
    rw [hdrop] at hrest
    cases hrest
  | cons x rest =>
    have hx : x ∈ xs := (List.dropWhile_sublist p).subset (by rw [hdrop]; exact List.mem_cons_self)
    have hclass : p x = false := by
      have hhead := List.head?_dropWhile_not p xs
      rw [hdrop] at hhead
      exact hhead
    rw [hdrop] at hrest hordered
    refine ⟨x, hx, hclass, ?_⟩
    rcases List.mem_cons.mp hrest with rfl | hafter
    · rw [hp] at hclass
      cases hclass
    · exact (List.pairwise_cons.mp hordered).1 c hafter

end Runs

/-! ### Blanks by offset -/

namespace Source

/-- Whether a blank stands at an offset. -/
def blankAt (s : Source) (i : Nat) : Bool := s.bytes[i]?.any isBlankByte

variable {s : Source} {a e i k : Nat}

theorem getElem?_slice (s : Source) (hk : k < e - a) : (s.slice ⟨a, e⟩)[k]? = s.bytes[a + k]? := by
  simp only [slice]
  rw [List.getElem?_take_of_lt hk, List.getElem?_drop]

theorem blankAt_eq_any_slice (ha : a ≤ i) (he : i < e) :
    s.blankAt i = (s.slice ⟨a, e⟩)[i - a]?.any isBlankByte := by
  rw [s.getElem?_slice (by omega), blankAt, Nat.add_sub_cancel' ha]

theorem blankAt_of_slice (hblank : ∀ b ∈ s.slice ⟨a, e⟩, isBlankByte b = true) (ha : a ≤ i)
    (he : i < e) (hsize : i < s.size) : s.blankAt i = true := by
  have hget : s.bytes[i]? = some (s.bytes.get ⟨i, hsize⟩) := List.getElem?_eq_getElem hsize
  have hmem : s.bytes.get ⟨i, hsize⟩ ∈ s.slice ⟨a, e⟩ := by
    apply List.mem_of_getElem? (i := i - a)
    rw [s.getElem?_slice (by omega), Nat.add_sub_cancel' ha]
    exact hget
  rw [blankAt, hget]
  exact hblank _ hmem

/-- What is left of a span without its runs of blanks begins and ends with something visible. -/
theorem blankAt_runs {outer : Span} (hsize : outer.stop ≤ s.size)
    (hvisible : ((s.slice outer).takeWhile isBlankByte).length ≠ (s.slice outer).length) :
    s.blankAt (outer.start + ((s.slice outer).takeWhile isBlankByte).length) = false ∧
      s.blankAt (outer.stop - ((s.slice outer).reverse.takeWhile isBlankByte).length - 1) = false := by
  have hlength := length_slice hsize
  have hruns := length_runs_lt hvisible
  have hlead := any_getElem?_takeWhile isBlankByte (s.slice outer)
  have htrail := any_getElem?_takeWhile isBlankByte (s.slice outer).reverse
  rw [List.getElem?_reverse (by omega)] at htrail
  constructor
  · rw [blankAt_eq_any_slice (e := outer.stop) (Nat.le_add_right _ _) (by omega),
      Nat.add_sub_cancel_left]
    exact hlead
  · rw [blankAt_eq_any_slice (a := outer.start) (e := outer.stop) (by omega) (by omega)]
    -- counted from the other end, this is where the reversed run stops
    have hindex : (s.slice outer).length - 1 -
          ((s.slice outer).reverse.takeWhile isBlankByte).length =
        outer.stop - ((s.slice outer).reverse.takeWhile isBlankByte).length - 1 - outer.start := by
      omega
    rw [hindex] at htrail
    exact htrail

/-- The content of a node with something visible among its tokens is what is left of the tokens without
blanks, from one visible byte to another. -/
theorem contentSpan_visible {n : Node} (hsize : n.tokenSpan.stop ≤ s.size)
    (hstart : n.tokenSpan.start ≤ i) (hstop : i < n.tokenSpan.stop) (hi : s.blankAt i = false) :
    ∃ content, s.contentSpan n = .ok content ∧ s.Trimmed n.tokenSpan content ∧
      s.blankAt content.start = false ∧ s.blankAt (content.stop - 1) = false := by
  have hvisible : ((s.slice n.tokenSpan).takeWhile isBlankByte).length ≠
      (s.slice n.tokenSpan).length := by
    intro hall
    have hwhole := (List.takeWhile_prefix isBlankByte).eq_of_length hall
    have hblank : ∀ b ∈ s.slice n.tokenSpan, isBlankByte b = true := by
      rw [← hwhole]
      intro b hb
      exact List.mem_takeWhile_imp hb
    rw [blankAt_of_slice hblank hstart hstop (Nat.lt_of_lt_of_le hstop hsize)] at hi
    cases hi
  refine ⟨_, ?_, trimmed_runs (by omega) hsize hvisible, blankAt_runs hsize hvisible⟩
  simp only [contentSpan]
  rw [if_neg (by omega), if_neg (by omega), if_neg (by omega), if_neg hvisible]

end Source

namespace Node

/-! ### Leaves -/

/-- The nodes without children, in document order. -/
def leaves (n : Node) : List Node := n.preorder.filter (·.children.isEmpty)

/-- The leaves that are no comments. -/
def tokenLeaves (n : Node) : List Node := n.leaves.filter (!·.isComment)

/-- Neither of two nodes begins before the other has ended. -/
def Apart (m n : Node) : Prop := m.stop ≤ n.start ∨ n.stop ≤ m.start

instance : Std.Symm Apart := ⟨fun _ _ h => h.symm⟩

variable {c l m n root : Node} {i : Nat}

theorem apart_of_ordered {ns : List Node} (h : ns.Pairwise fun m n => m.stop ≤ n.start)
    (hm : m ∈ ns) (hn : n ∈ ns) (hne : m ≠ n) : m.Apart n :=
  List.Pairwise.forall (R := Apart) (h.imp Or.inl) hm hn hne

theorem mem_leaves : l ∈ n.leaves ↔ l ∈ n.preorder ∧ l.children = [] := by
  rw [leaves, List.mem_filter, List.isEmpty_iff]

theorem mem_tokenLeaves : l ∈ n.tokenLeaves ↔ l ∈ n.leaves ∧ l.isComment = false := by
  rw [tokenLeaves, List.mem_filter, Bool.not_eq_true']

theorem leaves_eq (n : Node) :
    n.leaves = if n.children.isEmpty then [n] else n.children.flatMap leaves := by
  rw [leaves, preorder_eq, descendants_eq, List.filter_cons, List.filter_flatMap]
  cases hchildren : n.children with
  | nil => rfl
  | cons c rest => rfl

theorem leaves_of_no_children (h : n.children = []) : n.leaves = [n] := by
  rw [leaves_eq, h]
  rfl

theorem exists_child_of_leaf (hn : n.children ≠ []) (hl : l ∈ n.leaves) :
    ∃ c ∈ n.children, l ∈ c.leaves := by
  rw [leaves_eq, if_neg (by rwa [List.isEmpty_iff])] at hl
  exact List.mem_flatMap.mp hl

/-- Leaves have nothing below them, so all of them are outermost. -/
theorem leaves_eq_outermost (n : Node) : n.leaves = n.outermost (·.children.isEmpty) := by
  induction n using childInduction with
  | step n ih =>
    rw [leaves_eq, outermost_eq, List.flatMap_congr ih]

theorem Nested.pairwise_leaves (h : n.Nested) :
    n.leaves.Pairwise fun l m => l.stop ≤ m.start := by
  rw [leaves_eq_outermost]
  exact pairwise_outermost _ h

/-- A leaf that meets a node is a leaf of the node. -/
theorem Nested.mem_leaves_of_meets (h : root.Nested) (hn : n ∈ root.preorder)
    (hl : l ∈ root.leaves) (hin : n.start ≤ i ∧ i < n.stop) (hil : l.start ≤ i ∧ i < l.stop) :
    l ∈ n.leaves := by
  induction root using childInduction with
  | step root ih =>
    rw [preorder_eq, descendants_eq] at hn
    rcases List.mem_cons.mp hn with rfl | hn
    · exact hl
    · obtain ⟨c, hc, hn⟩ := List.mem_flatMap.mp hn
      obtain ⟨d, hd, hl⟩ := exists_child_of_leaf (List.ne_nil_of_mem hc) hl
      by_cases hcd : c = d
      · subst hcd
        exact ih c hc (h.of_child hc) hn hl
      · -- the leaf and the node are below different children, which do not overlap
        have hapart := apart_of_ordered (h.ordered root (mem_preorder_self root)) hc hd hcd
        have hnc := (h.of_child hc).bounds hn
        have hld := (h.of_child hd).bounds (mem_leaves.mp hl).1
        unfold Apart at hapart
        omega

/-! ### Trees whose leaves account for everything visible -/

/-- Comments are leaves, what no leaf covers is blank, and tokens begin and end with something
visible. -/
structure Tokenized (s : Source) (root : Node) : Prop extends WellFormed s root where
  leafComments : root.LeafComments
  gaps : ∀ i < root.stop, root.start ≤ i →
    (∀ l ∈ root.leaves, ¬ (l.start ≤ i ∧ i < l.stop)) → s.blankAt i = true
  solid : ∀ l ∈ root.tokenLeaves,
    l.start < l.stop ∧ s.blankAt l.start = false ∧ s.blankAt (l.stop - 1) = false

instance (s : Source) (root : Node) : Decidable (root.Tokenized s) :=
  decidable_of_iff
    (root.WellFormed s ∧ root.LeafComments ∧
      (∀ i < root.stop, root.start ≤ i →
        (∀ l ∈ root.leaves, ¬ (l.start ≤ i ∧ i < l.stop)) → s.blankAt i = true) ∧
      (∀ l ∈ root.tokenLeaves,
        l.start < l.stop ∧ s.blankAt l.start = false ∧ s.blankAt (l.stop - 1) = false))
    ⟨fun h => { h.1 with leafComments := h.2.1, gaps := h.2.2.1, solid := h.2.2.2 },
      fun h => ⟨h.toWellFormed, h.leafComments, h.gaps, h.solid⟩⟩

variable {s : Source} {first last : Node}

/-- Each part of such a tree is one itself. -/
theorem Tokenized.of_mem (h : root.Tokenized s) (hn : n ∈ root.preorder) : n.Tokenized s where
  toNested := h.toNested.of_mem hn
  inSource := Nat.le_trans (h.toNested.bounds hn).2 h.inSource
  leafComments m hm := h.leafComments m (mem_preorder_trans hm hn)
  gaps i hstop hstart hfree := by
    obtain ⟨hnstart, hnstop⟩ := h.toNested.bounds hn
    refine h.gaps i (Nat.lt_of_lt_of_le hstop hnstop) (Nat.le_trans hnstart hstart) ?_
    intro l hl hil
    exact hfree l (h.toNested.mem_leaves_of_meets hn hl ⟨hstart, hstop⟩ hil) hil
  solid l hl := by
    obtain ⟨hleaf, htoken⟩ := mem_tokenLeaves.mp hl
    obtain ⟨hmem, hchildren⟩ := mem_leaves.mp hleaf
    exact h.solid l (mem_tokenLeaves.mpr
      ⟨mem_leaves.mpr ⟨mem_preorder_trans hmem hn, hchildren⟩, htoken⟩)

theorem Tokenized.start_le_token (h : n.Tokenized s) (hfirst : n.tokenLeaves.head? = some first)
    (hl : l ∈ n.tokenLeaves) : first.start ≤ l.start :=
  start_le_of_head? (fun t ht => Nat.le_of_lt (h.solid t ht).1) (h.pairwise_leaves.filter _) hfirst hl

theorem Tokenized.token_le_stop (h : n.Tokenized s) (hlast : n.tokenLeaves.getLast? = some last)
    (hl : l ∈ n.tokenLeaves) : l.stop ≤ last.stop :=
  stop_le_of_getLast? (fun t ht => Nat.le_of_lt (h.solid t ht).1) (h.pairwise_leaves.filter _) hlast hl

/-- What is visible belongs to a token or to a comment that all tokens keep clear of. -/
theorem Tokenized.exists_leaf (h : n.Tokenized s) (hstart : n.start ≤ i) (hstop : i < n.stop)
    (hi : s.blankAt i = false) :
    ∃ l ∈ n.leaves, (l.start ≤ i ∧ i < l.stop) ∧
      (l ∈ n.tokenLeaves ∨ (l.isComment = true ∧ ∀ t ∈ n.tokenLeaves, l.Apart t)) := by
  have hcovered : ∃ l ∈ n.leaves, l.start ≤ i ∧ i < l.stop := by
    by_contra hnone
    have hblank := h.gaps i hstop hstart fun l hl hil => hnone ⟨l, hl, hil⟩
    rw [hblank] at hi
    cases hi
  obtain ⟨l, hl, hil⟩ := hcovered
  refine ⟨l, hl, hil, ?_⟩
  cases hcomment : l.isComment with
  | false => exact Or.inl (mem_tokenLeaves.mpr ⟨hl, hcomment⟩)
  | true =>
    refine Or.inr ⟨rfl, fun t ht => ?_⟩
    obtain ⟨htleaf, htoken⟩ := mem_tokenLeaves.mp ht
    refine apart_of_ordered h.pairwise_leaves hl htleaf ?_
    rintro rfl
    rw [hcomment] at htoken
    cases htoken

/-! ### Comments at the edges of a node -/

theorem tokenSpan_of_no_children (h : n.children = []) : n.tokenSpan = n.span := by
  rw [tokenSpan, h]
  rfl

/-- Where a node has children of both sorts, its token span runs from child to child. -/
theorem tokenSpan_of_both {t : Node} (hc : c ∈ n.children) (hcomment : c.isComment = true)
    (ht : t ∈ n.children) (htoken : t.isComment = false) :
    ∃ first ∈ n.children, ∃ last ∈ n.children, first.isComment = false ∧ last.isComment = false ∧
      n.tokenSpan = ⟨first.start, last.stop⟩ := by
  have hsome : n.children.filter (!·.isComment) ≠ [] :=
    List.ne_nil_of_mem (List.mem_filter.mpr ⟨ht, by rw [htoken]; rfl⟩)
  have hless : (n.children.filter (!·.isComment)).length ≠ n.children.length := by
    intro hall
    have := List.length_filter_eq_length_iff.mp hall c hc
    rw [hcomment] at this
    cases this
  obtain ⟨hfirst, hfirstToken⟩ := List.mem_filter.mp (List.head_mem hsome)
  obtain ⟨hlast, hlastToken⟩ := List.mem_filter.mp (List.getLast_mem hsome)
  refine ⟨_, hfirst, _, hlast, by simpa using hfirstToken, by simpa using hlastToken, ?_⟩
  unfold tokenSpan
  simp only [List.head?_eq_some_head hsome, List.getLast?_eq_some_getLast hsome, if_neg hless]

/-- A comment has no leaf but itself. -/
theorem LeafComments.eq_of_leaf (h : n.LeafComments) (hc : c ∈ n.children)
    (hcomment : c.isComment = true) (hl : l ∈ c.leaves) : l = c := by
  have hchildren := h c (mem_preorder_of_child hc (mem_preorder_self c)) hcomment
  rw [leaves_of_no_children hchildren] at hl
  exact List.mem_singleton.mp hl

/-- A leaf outside of the token span is a comment that hangs at the node itself. -/
theorem Tokenized.comment_of_outside (h : n.Tokenized s) (hm : m ∈ n.leaves)
    (hout : m.start < n.tokenSpan.start ∨ n.tokenSpan.stop < m.stop) :
    m ∈ n.children ∧ m.isComment = true := by
  by_cases hchildren : n.children = []
  · rw [leaves_of_no_children hchildren] at hm
    rw [tokenSpan_of_no_children hchildren, List.mem_singleton.mp hm] at hout
    simp [span] at hout
  · obtain ⟨c, hc, hmc⟩ := exists_child_of_leaf hchildren hm
    cases hcomment : c.isComment with
    | true =>
      rw [h.leafComments.eq_of_leaf hc hcomment hmc]
      exact ⟨hc, hcomment⟩
    | false =>
      have hcover := h.toNested.tokenSpan_covers hc hcomment
      have hbounds := (h.toNested.of_child hc).bounds (mem_leaves.mp hmc).1
      omega

theorem Tokenized.tokenSpan_covers_token (h : n.Tokenized s) (hl : l ∈ n.tokenLeaves) :
    n.tokenSpan.start ≤ l.start ∧ l.stop ≤ n.tokenSpan.stop := by
  obtain ⟨hleaf, htoken⟩ := mem_tokenLeaves.mp hl
  by_contra hout
  obtain ⟨-, hcomment⟩ := h.comment_of_outside hleaf (by omega)
  rw [hcomment] at htoken
  cases htoken

/-- An inner node with a token below it has a child that is no comment. -/
theorem Tokenized.exists_token_child (h : n.Tokenized s) (hc : c ∈ n.children)
    (hl : l ∈ n.tokenLeaves) : ∃ t ∈ n.children, t.isComment = false := by
  obtain ⟨hleaf, htoken⟩ := mem_tokenLeaves.mp hl
  obtain ⟨t, ht, hlt⟩ := exists_child_of_leaf (List.ne_nil_of_mem hc) hleaf
  refine ⟨t, ht, ?_⟩
  by_contra hcomment
  rw [h.leafComments.eq_of_leaf ht (by simpa using hcomment) hlt] at htoken
  exact hcomment htoken

/-- A leaf that begins before the token span is one of the comments in front of all other children. -/
theorem Tokenized.mem_leading (h : n.Tokenized s) (hm : m ∈ n.leaves)
    (hbefore : m.start < n.tokenSpan.start) : m ∈ n.children.takeWhile isComment := by
  obtain ⟨hchild, hcomment⟩ := h.comment_of_outside hm (Or.inl hbefore)
  by_contra hnot
  obtain ⟨x, hx, htoken, hxm⟩ :=
    exists_of_not_mem_takeWhile (h.ordered n (mem_preorder_self n)) hchild hcomment hnot
  have hcover := h.toNested.tokenSpan_covers hx htoken
  have hforward := (h.toNested.of_child hx).start_le_stop
  omega

/-- A leaf that ends after the token span is one of the comments behind all other children. -/
theorem Tokenized.mem_trailing (h : n.Tokenized s) (hm : m ∈ n.leaves)
    (hafter : n.tokenSpan.stop < m.stop) : m ∈ n.children.reverse.takeWhile isComment := by
  obtain ⟨hchild, hcomment⟩ := h.comment_of_outside hm (Or.inr hafter)
  by_contra hnot
  obtain ⟨x, hx, htoken, hmx⟩ := exists_of_not_mem_takeWhile
    (List.pairwise_reverse.mpr (h.ordered n (mem_preorder_self n))) (List.mem_reverse.mpr hchild)
    hcomment hnot
  have hcover := h.toNested.tokenSpan_covers (List.mem_reverse.mp hx) htoken
  have hforward := (h.toNested.of_child (List.mem_reverse.mp hx)).start_le_stop
  omega

theorem Tokenized.leading_stop_le (h : n.Tokenized s) (hl : l ∈ n.tokenLeaves)
    (hm : m ∈ n.children.takeWhile isComment) : m.stop ≤ n.tokenSpan.start := by
  have hchild := (List.takeWhile_sublist isComment).subset hm
  obtain ⟨t, ht, htoken⟩ := h.exists_token_child hchild hl
  obtain ⟨first, hfirst, last, -, hclass, -, hspan⟩ :=
    tokenSpan_of_both hchild (List.mem_takeWhile_imp hm) ht htoken
  have hrel := rel_of_mem_takeWhile (h.ordered n (mem_preorder_self n)) hm hfirst hclass
  rw [hspan]
  exact hrel

theorem Tokenized.le_trailing_start (h : n.Tokenized s) (hl : l ∈ n.tokenLeaves)
    (hm : m ∈ n.children.reverse.takeWhile isComment) : n.tokenSpan.stop ≤ m.start := by
  have hchild := List.mem_reverse.mp ((List.takeWhile_sublist isComment).subset hm)
  obtain ⟨t, ht, htoken⟩ := h.exists_token_child hchild hl
  obtain ⟨first, -, last, hlast, -, hclass, hspan⟩ :=
    tokenSpan_of_both hchild (List.mem_takeWhile_imp hm) ht htoken
  have hrel := rel_of_mem_takeWhile
    (List.pairwise_reverse.mpr (h.ordered n (mem_preorder_self n))) hm (List.mem_reverse.mpr hlast) hclass
  rw [hspan]
  exact hrel

/-! ### Where the content begins and ends -/

/-- Something of a node is visible. -/
def Visible (s : Source) (n : Node) : Prop := ∃ i < n.stop, n.start ≤ i ∧ s.blankAt i = false

/-- The visible comments before the first token and after the last one hang at the node itself, in front
of all other children or behind them. -/
structure ClearEdges (s : Source) (n first last : Node) : Prop where
  lead : ∀ m ∈ n.leaves, m.isComment = true → m.Visible s → m.stop ≤ first.start →
    m ∈ n.children.takeWhile isComment
  trail : ∀ m ∈ n.leaves, m.isComment = true → m.Visible s → last.stop ≤ m.start →
    m ∈ n.children.reverse.takeWhile isComment

section Edges

variable {content : Span}

/-- Trimming does not reach into what is visible. -/
theorem visible_inside_trimmed (htrim : s.Trimmed n.tokenSpan content)
    (hsize : n.tokenSpan.stop ≤ s.size) (hstart : n.tokenSpan.start ≤ i)
    (hstop : i < n.tokenSpan.stop) (hi : s.blankAt i = false) :
    content.start ≤ i ∧ i < content.stop := by
  have hlt : i < s.size := Nat.lt_of_lt_of_le hstop hsize
  constructor
  · by_contra hbefore
    rw [Source.blankAt_of_slice htrim.lead hstart (Nat.lt_of_not_le hbefore) hlt] at hi
    cases hi
  · by_contra hafter
    rw [Source.blankAt_of_slice htrim.trail (Nat.le_of_not_lt hafter) hstop hlt] at hi
    cases hi

theorem Tokenized.tokenSpan_in_source (h : n.Tokenized s) : n.tokenSpan.stop ≤ s.size :=
  Nat.le_trans h.toNested.tokenSpan_inside.2.2 h.inSource

/-- A content leaves no token out. -/
theorem Tokenized.covers_token (h : n.Tokenized s) (htrim : s.Trimmed n.tokenSpan content)
    (hl : l ∈ n.tokenLeaves) : content.start ≤ l.start ∧ l.stop ≤ content.stop := by
  obtain ⟨hforward, hfirst, hlast⟩ := h.solid l hl
  obtain ⟨hstart, hstop⟩ := h.tokenSpan_covers_token hl
  have hbegin := visible_inside_trimmed htrim h.tokenSpan_in_source hstart (by omega) hfirst
  have hend := visible_inside_trimmed htrim h.tokenSpan_in_source (by omega) (by omega) hlast
  omega

/-- What is visible before the first token or after the last one belongs to a comment on that side. -/
theorem Tokenized.exists_comment (h : n.Tokenized s) (hstart : n.start ≤ i) (hstop : i < n.stop)
    (hi : s.blankAt i = false) (hfirst : n.tokenLeaves.head? = some first)
    (hlast : n.tokenLeaves.getLast? = some last) (hout : i < first.start ∨ last.stop ≤ i) :
    ∃ m ∈ n.leaves, m.isComment = true ∧ (m.start ≤ i ∧ i < m.stop) ∧
      (m.stop ≤ first.start ∨ last.stop ≤ m.start) := by
  have hfirstMem := List.mem_of_head? hfirst
  have hlastMem := List.mem_of_getLast? hlast
  obtain ⟨m, hm, hin, htoken | ⟨hcomment, hapart⟩⟩ := h.exists_leaf hstart hstop hi
  · have := h.start_le_token hfirst htoken
    have := h.token_le_stop hlast htoken
    omega
  · refine ⟨m, hm, hcomment, hin, ?_⟩
    have hbefore := hapart first hfirstMem
    have hafter := hapart last hlastMem
    have hsolid := (h.solid first hfirstMem).1
    have hsolid' := (h.solid last hlastMem).1
    unfold Apart at hbefore hafter
    omega

theorem Tokenized.start_eq_iff (h : n.Tokenized s) (htrim : s.Trimmed n.tokenSpan content)
    (hvisible : s.blankAt content.start = false) (hfirst : n.tokenLeaves.head? = some first)
    (hlast : n.tokenLeaves.getLast? = some last) :
    content.start = first.start ↔
      ∀ m ∈ n.leaves, m.isComment = true → m.Visible s → m.stop ≤ first.start →
        m ∈ n.children.takeWhile isComment := by
  have hmem := List.mem_of_head? hfirst
  have hcover := h.covers_token htrim hmem
  have hforward := (h.solid first hmem).1
  have hinside := h.toNested.tokenSpan_inside
  have hle := htrim.start_le
  have hlt := htrim.forward
  have hge := htrim.stop_le
  constructor
  · rintro heq m hm - ⟨i, histop, histart, hi⟩ hbefore
    apply h.mem_leading hm
    by_contra hspan
    have hin := visible_inside_trimmed htrim h.tokenSpan_in_source (i := i) (by omega) (by omega) hi
    omega
  · intro hclear
    by_contra hne
    -- the content begins with something visible and before the first token, so with a comment
    obtain ⟨m, hm, hcomment, hin, hside⟩ := h.exists_comment (i := content.start) (by omega) (by omega)
      hvisible hfirst hlast (by omega)
    have hlastStop := h.token_le_stop hlast hmem
    have hrun := hclear m hm hcomment ⟨content.start, hin.2, hin.1, hvisible⟩ (by omega)
    have hrunStop := h.leading_stop_le hmem hrun
    omega

theorem Tokenized.stop_eq_iff (h : n.Tokenized s) (htrim : s.Trimmed n.tokenSpan content)
    (hvisible : s.blankAt (content.stop - 1) = false) (hfirst : n.tokenLeaves.head? = some first)
    (hlast : n.tokenLeaves.getLast? = some last) :
    content.stop = last.stop ↔
      ∀ m ∈ n.leaves, m.isComment = true → m.Visible s → last.stop ≤ m.start →
        m ∈ n.children.reverse.takeWhile isComment := by
  have hmem := List.mem_of_getLast? hlast
  have hcover := h.covers_token htrim hmem
  have hforward := (h.solid last hmem).1
  have hinside := h.toNested.tokenSpan_inside
  have hle := htrim.start_le
  have hlt := htrim.forward
  have hge := htrim.stop_le
  constructor
  · rintro heq m hm - ⟨i, histop, histart, hi⟩ hafter
    apply h.mem_trailing hm
    by_contra hspan
    have hin := visible_inside_trimmed htrim h.tokenSpan_in_source (i := i) (by omega) (by omega) hi
    omega
  · intro hclear
    by_contra hne
    -- the content ends with something visible and after the last token, so with a comment
    obtain ⟨m, hm, hcomment, hin, hside⟩ := h.exists_comment (i := content.stop - 1) (by omega)
      (by omega) hvisible hfirst hlast (by omega)
    have hfirstStart := h.start_le_token hfirst hmem
    have hrun := hclear m hm hcomment ⟨content.stop - 1, hin.2, hin.1, hvisible⟩ (by omega)
    have hrunStart := h.le_trailing_start hmem hrun
    omega

end Edges

/-- Where all children are leaves, a comment can hang nowhere but at the node itself. -/
theorem Tokenized.clearEdges_of_flat (h : n.Tokenized s) (hflat : ∀ c ∈ n.children, c.children = [])
    (hfirst : n.tokenLeaves.head? = some first) (hlast : n.tokenLeaves.getLast? = some last) :
    n.ClearEdges s first last := by
  have hordered := h.ordered n (mem_preorder_self n)
  have hleaf : ∀ c ∈ n.children, c ∈ n.leaves := fun c hc =>
    mem_leaves.mpr ⟨mem_preorder_of_child hc (mem_preorder_self c), hflat c hc⟩
  have hchild : ∀ m ∈ n.leaves, m.isComment = true → m ∈ n.children := by
    intro m hm hcomment
    by_cases hchildren : n.children = []
    · -- then the node is its only leaf, and that is a token
      obtain ⟨hfirstLeaf, htoken⟩ := mem_tokenLeaves.mp (List.mem_of_head? hfirst)
      rw [leaves_of_no_children hchildren] at hm hfirstLeaf
      rw [List.mem_singleton.mp hfirstLeaf, ← List.mem_singleton.mp hm, hcomment] at htoken
      cases htoken
    · obtain ⟨c, hc, hmc⟩ := exists_child_of_leaf hchildren hm
      rw [leaves_of_no_children (hflat c hc)] at hmc
      rwa [List.mem_singleton.mp hmc]
  constructor
  · rintro m hm hcomment ⟨i, histop, histart, -⟩ hbefore
    by_contra hnot
    obtain ⟨x, hx, htoken, hxm⟩ :=
      exists_of_not_mem_takeWhile hordered (hchild m hm hcomment) hcomment hnot
    have hxtoken := mem_tokenLeaves.mpr ⟨hleaf x hx, htoken⟩
    have hsolid := (h.solid x hxtoken).1
    have hfirstStart := h.start_le_token hfirst hxtoken
    omega
  · rintro m hm hcomment ⟨i, histop, histart, -⟩ hafter
    by_contra hnot
    obtain ⟨x, hx, htoken, hmx⟩ := exists_of_not_mem_takeWhile
      (List.pairwise_reverse.mpr hordered) (List.mem_reverse.mpr (hchild m hm hcomment)) hcomment hnot
    have hxtoken := mem_tokenLeaves.mpr ⟨hleaf x (List.mem_reverse.mp hx), htoken⟩
    have hsolid := (h.solid x hxtoken).1
    have hlastStop := h.token_le_stop hlast hxtoken
    omega

/-- The content of a node with a token below it.  It leaves no token out, it begins and ends with
something visible, and both locations that are made for the node are made of it.  It lies exactly between
the first token and the last one if, and only if, the visible comments at the edges hang at the node
itself. -/
theorem contentSpan_eq_tokens_iff (h : root.Tokenized s) (hn : n ∈ root.preorder)
    (hfirst : n.tokenLeaves.head? = some first) (hlast : n.tokenLeaves.getLast? = some last) :
    ∃ content, s.contentSpan n = .ok content ∧
      Location.ofNode s n = .ok (Location.ofSpan s content) ∧
      Range.ofNode s n = .ok (Range.ofSpan s content) ∧
      content.start ≤ first.start ∧ last.stop ≤ content.stop ∧
      s.blankAt content.start = false ∧ s.blankAt (content.stop - 1) = false ∧
      (content = ⟨first.start, last.stop⟩ ↔ n.ClearEdges s first last) := by
  have hnode := h.of_mem hn
  have hfirstMem := List.mem_of_head? hfirst
  have hlastMem := List.mem_of_getLast? hlast
  obtain ⟨hforward, hvisible, -⟩ := hnode.solid first hfirstMem
  obtain ⟨hstart, hstop⟩ := hnode.tokenSpan_covers_token hfirstMem
  obtain ⟨content, hcontent, htrim, hbegin, hend⟩ := Source.contentSpan_visible
    hnode.tokenSpan_in_source hstart (Nat.lt_of_lt_of_le hforward hstop) hvisible
  have hstartIff := hnode.start_eq_iff htrim hbegin hfirst hlast
  have hstopIff := hnode.stop_eq_iff htrim hend hfirst hlast
  refine ⟨content, hcontent, ?_, ?_, (hnode.covers_token htrim hfirstMem).1,
    (hnode.covers_token htrim hlastMem).2, hbegin, hend, ?_⟩
  · rw [Location.ofNode, hcontent]
    rfl
  · rw [Range.ofNode, hcontent]
    rfl
  · constructor
    · rintro rfl
      exact ⟨hstartIff.mp rfl, hstopIff.mp rfl⟩
    · rintro ⟨hlead, htrail⟩
      rw [← hstartIff.mpr hlead, ← hstopIff.mpr htrail]

/-- A declaration whose modifier stands between two comments. -/
def commentedSource : Source := .ofString "/* a */ public // b\nimport A\n"

def publicModifier : Node := ⟨"visibility_modifier", 8, 14, true, []⟩

def importedName : Node := ⟨"identifier", 27, 28, true, []⟩

def commentedModifiers : Node :=
  ⟨"modifiers", 0, 19, true,
    [⟨"multiline_comment", 0, 7, true, []⟩, publicModifier, ⟨"comment", 15, 19, true, []⟩]⟩

def commentedImport : Node :=
  ⟨"import_declaration", 0, 28, true,
    [commentedModifiers, ⟨"import", 20, 26, false, []⟩, importedName]⟩

def commentedTree : Node := ⟨"source_file", 0, 29, true, [commentedImport]⟩

theorem contentSpan_eq_tokens_iff_sample :
    commentedTree.Tokenized commentedSource ∧ commentedModifiers ∈ commentedTree.preorder ∧
      commentedModifiers.tokenLeaves.head? = some publicModifier ∧
      commentedModifiers.tokenLeaves.getLast? = some publicModifier ∧
      commentedModifiers.ClearEdges commentedSource publicModifier publicModifier ∧
      commentedSource.contentSpan commentedModifiers = .ok ⟨8, 14⟩ := by
  have hmem : commentedModifiers ∈ commentedTree.preorder :=
    List.mem_cons_of_mem _ (List.mem_cons_of_mem _ List.mem_cons_self)
  have htree : commentedTree.Tokenized commentedSource := by decide
  have hclear : commentedModifiers.ClearEdges commentedSource publicModifier publicModifier :=
    (htree.of_mem hmem).clearEdges_of_flat (by decide) rfl rfl
  refine ⟨htree, hmem, rfl, rfl, hclear, ?_⟩
  obtain ⟨content, hcontent, -, -, -, -, -, -, hiff⟩ :=
    contentSpan_eq_tokens_iff htree hmem (show _ = some publicModifier from rfl)
      (show _ = some publicModifier from rfl)
  rw [hcontent, hiff.mpr hclear]
  rfl

/-- The first comment hangs at the modifiers and not at the declaration, whose content begins with
it. -/
theorem content_covers_edge_comment :
    (¬ ∀ (s : Source) (root n first last : Node), root.Tokenized s → n ∈ root.preorder →
        n.tokenLeaves.head? = some first → n.tokenLeaves.getLast? = some last →
        s.contentSpan n = .ok ⟨first.start, last.stop⟩) ∧
      commentedSource.contentSpan commentedImport = .ok ⟨0, 28⟩ ∧
      Location.ofNode commentedSource commentedImport = .ok ⟨1, 1, some 2, some 9⟩ := by
  have hcontent : commentedSource.contentSpan commentedImport = .ok ⟨0, 28⟩ := by decide
  refine ⟨fun h => ?_, hcontent, by decide⟩
  have hclaimed := h commentedSource commentedTree commentedImport publicModifier importedName
    (by decide) (List.mem_cons_of_mem _ List.mem_cons_self) rfl rfl
  rw [hcontent] at hclaimed
  exact absurd hclaimed (by decide)

end Node

end TreeLint
