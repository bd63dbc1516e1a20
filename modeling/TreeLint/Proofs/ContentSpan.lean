/-
  TreeLint/Proofs/ContentSpan.lean
  ================================
  **Where a node's content lies.**  The content of a node is found in two steps: from the node's span to
  the span of its tokens, which leaves out comments at the edges, and from there to what remains without
  blanks.  In a nested tree the first step stays inside the node and keeps every child that is not a
  comment (`tokenSpan_covers`); the second stays inside the tokens and leaves out blanks only
  (`Trimmed`).

  So in a well-formed tree every node has a content, which lies inside the node (`contentSpan_inside`).
  A node below which something visible stands outside of comments has a content that reaches over it
  (`contentSpan_reaches`); this is what lets a fix find the part that it replaces.
-/
import Mathlib.Data.List.TakeWhile
import TreeLint.Proofs.Edits
import TreeLint.Proofs.TreeOrder
import TreeLint.Proofs.TrimmedText

namespace TreeLint

open Text

/-! ### Blank bytes -/

theorem isBlankByte_cases {b : UInt8} (hb : isBlankByte b = true) :
    b.toNat = 0x20 ∨ (0x09 ≤ b.toNat ∧ b.toNat ≤ 0x0D) := by
  simp only [isBlankByte, Bool.or_eq_true, beq_iff_eq, Bool.and_eq_true, decide_eq_true_eq] at hb
  rcases hb with rfl | ⟨hlow, hhigh⟩
  · exact Or.inl rfl
  · exact Or.inr ⟨UInt8.le_iff_toNat_le.mp hlow, UInt8.le_iff_toNat_le.mp hhigh⟩

theorem isBlankByte_ascii {b : UInt8} (hb : isBlankByte b = true) : b.toNat < 0x80 := by
  have := isBlankByte_cases hb
  omega

/-- A blank byte is a blank character. -/
theorem isBlank_of_isBlankByte {b : UInt8} (hb : isBlankByte b = true) :
    isBlank (Char.ofNat b.toNat) = true := by
  have hvalues : b.toNat = 0x20 ∨ b.toNat = 0x09 ∨ b.toNat = 0x0A ∨ b.toNat = 0x0B ∨
      b.toNat = 0x0C ∨ b.toNat = 0x0D := by
    have := isBlankByte_cases hb
    omega
  rcases hvalues with h | h | h | h | h | h <;> rw [h] <;> decide

/-- A node of nothing but blanks has no text. -/
theorem Node.trimmedText_eq_nil {s : Source} {n : Node}
    (h : ∀ b ∈ n.bytes s, isBlankByte b = true) : n.trimmedText s = [] := by
  rw [Node.trimmedText, Utf8.decode_of_ascii fun b hb => isBlankByte_ascii (h b hb)]
  apply trim_eq_nil_iff.mpr
  intro c hc
  obtain ⟨b, hb, rfl⟩ := List.mem_map.mp hc
  exact isBlank_of_isBlankByte (h b hb)

/-! ### Trimming -/

namespace Source

theorem slice_append_slice (s : Source) {a b c : Nat} (hab : a ≤ b) (hbc : b ≤ c) :
    s.slice ⟨a, b⟩ ++ s.slice ⟨b, c⟩ = s.slice ⟨a, c⟩ := by
  have hlength : c - a = (b - a) + (c - b) := by omega
  simp only [slice, hlength, List.take_add, List.drop_drop, Nat.add_sub_cancel' hab]

theorem mem_slice_mono {s : Source} {a b c d : Nat} {x : UInt8} (hca : c ≤ a) (hbd : b ≤ d)
    (hx : x ∈ s.slice ⟨a, b⟩) : x ∈ s.slice ⟨c, d⟩ := by
  by_cases hab : a ≤ b
  · rw [← s.slice_append_slice hca (Nat.le_trans hab hbd), ← s.slice_append_slice hab hbd]
    exact List.mem_append_right _ (List.mem_append_left _ hx)
  · rw [slice, show b - a = 0 by omega, List.take_zero] at hx
    cases hx

theorem length_slice {s : Source} {span : Span} (h : span.stop ≤ s.size) :
    (s.slice span).length = span.stop - span.start := by
  rw [slice, List.length_take, List.length_drop]
  exact Nat.min_eq_left (Nat.sub_le_sub_right h _)

/-- An inner span that leaves out blanks at the edges of an outer one. -/
structure Trimmed (s : Source) (outer inner : Span) : Prop where
  start_le : outer.start ≤ inner.start
  forward : inner.start < inner.stop
  stop_le : inner.stop ≤ outer.stop
  lead : ∀ b ∈ s.slice ⟨outer.start, inner.start⟩, isBlankByte b = true
  trail : ∀ b ∈ s.slice ⟨inner.stop, outer.stop⟩, isBlankByte b = true

/-- The leading and the trailing run of a class do not meet, unless everything is of the class. -/
theorem length_runs_lt {α : Type} {p : α → Bool} {xs : List α}
    (h : (xs.takeWhile p).length ≠ xs.length) :
    (xs.takeWhile p).length + (xs.reverse.takeWhile p).length < xs.length := by
  cases hrest : xs.dropWhile p with
  | nil =>
    have hall := List.takeWhile_append_dropWhile (p := p) (l := xs)
    rw [hrest, List.append_nil] at hall
    exact absurd (congrArg List.length hall) h
  | cons x rest =>
    have hx : p x = false := by
      have := List.head?_dropWhile_not p xs
      rw [hrest] at this
      simpa using this
    have hxs : xs = xs.takeWhile p ++ x :: rest := by
      rw [← hrest, List.takeWhile_append_dropWhile]
    have hlength := congrArg List.length hxs
    rw [List.length_append, List.length_cons] at hlength
    -- read backwards, the run ends before `x`
    have htrail : (xs.reverse.takeWhile p).length ≤ rest.length := by
      have hreverse : xs.reverse = rest.reverse ++ x :: (xs.takeWhile p).reverse := by
        conv => lhs; rw [hxs]
        simp
      have hstop : (x :: (xs.takeWhile p).reverse).takeWhile p = [] :=
        List.takeWhile_cons_of_neg (by simp [hx])
      rw [hreverse, List.takeWhile_append]
      split
      · rw [hstop, List.append_nil, List.length_reverse]
      · have := (List.takeWhile_prefix p (l := rest.reverse)).length_le
        rwa [List.length_reverse] at this
    omega

theorem slice_lead (s : Source) (outer : Span) {k : Nat} (hk : k ≤ outer.stop - outer.start) :
    s.slice ⟨outer.start, outer.start + k⟩ = (s.slice outer).take k := by
  simp only [slice, List.take_take, Nat.add_sub_cancel_left, Nat.min_eq_left hk]

theorem slice_trail (s : Source) (outer : Span) {k : Nat} (hk : k ≤ outer.stop - outer.start)
    (hforward : outer.start ≤ outer.stop) :
    s.slice ⟨outer.stop - k, outer.stop⟩ =
      (s.slice outer).drop (outer.stop - outer.start - k) := by
  have hstart : outer.start + (outer.stop - outer.start - k) = outer.stop - k := by omega
  have hlength : outer.stop - outer.start - (outer.stop - outer.start - k) =
      outer.stop - (outer.stop - k) := by omega
  simp only [slice, List.drop_take, List.drop_drop, hstart, hlength]

/-- What is left of a span without its runs of blanks. -/
theorem trimmed_runs {s : Source} {outer : Span} (hforward : outer.start ≤ outer.stop)
    (hsize : outer.stop ≤ s.size)
    (hvisible : ((s.slice outer).takeWhile isBlankByte).length ≠ (s.slice outer).length) :
    s.Trimmed outer ⟨outer.start + ((s.slice outer).takeWhile isBlankByte).length,
      outer.stop - ((s.slice outer).reverse.takeWhile isBlankByte).length⟩ := by
  have hruns := length_runs_lt hvisible
  have hlength := length_slice hsize
  generalize hlead : (s.slice outer).takeWhile isBlankByte = lead at hruns
  generalize htrail : (s.slice outer).reverse.takeWhile isBlankByte = trail at hruns
  have hprefix : lead <+: s.slice outer := hlead ▸ List.takeWhile_prefix _
  have hsuffix : trail.reverse <:+ s.slice outer := by
    rw [← List.reverse_prefix, List.reverse_reverse, ← htrail]
    exact List.takeWhile_prefix _
  refine ⟨by simp only; omega, by simp only; omega, by simp only; omega, ?_, ?_⟩
  · intro b hb
    rw [slice_lead s outer (by omega), ← List.prefix_iff_eq_take.mp hprefix, ← hlead] at hb
    exact List.mem_takeWhile_imp hb
  · intro b hb
    have hdrop := List.suffix_iff_eq_drop.mp hsuffix
    rw [List.length_reverse, hlength] at hdrop
    rw [slice_trail s outer (by omega) hforward, ← hdrop, List.mem_reverse, ← htrail] at hb
    exact List.mem_takeWhile_imp hb

end Source

/-! ### The span of a node's tokens -/

namespace Node

variable {ts : List Node}

theorem start_le_of_head? {first t : Node} (hforward : ∀ t ∈ ts, t.start ≤ t.stop)
    (hordered : ts.Pairwise fun c d => c.stop ≤ d.start) (hfirst : ts.head? = some first)
    (ht : t ∈ ts) : first.start ≤ t.start := by
  cases ts with
  | nil => cases ht
  | cons x rest =>
    obtain rfl : x = first := Option.some.inj hfirst
    rcases List.mem_cons.mp ht with rfl | ht
    · exact Nat.le_refl _
    · exact Nat.le_trans (hforward x List.mem_cons_self) ((List.pairwise_cons.mp hordered).1 t ht)

theorem stop_le_of_getLast? {last t : Node} (hforward : ∀ t ∈ ts, t.start ≤ t.stop)
    (hordered : ts.Pairwise fun c d => c.stop ≤ d.start) (hlast : ts.getLast? = some last)
    (ht : t ∈ ts) : t.stop ≤ last.stop := by
  obtain ⟨front, rfl⟩ := List.getLast?_eq_some_iff.mp hlast
  rcases List.mem_append.mp ht with hfront | hend
  · have hstart := (List.pairwise_append.mp hordered).2.2 t hfront last (List.mem_singleton_self _)
    exact Nat.le_trans hstart (hforward last (List.mem_append_right _ (List.mem_singleton_self _)))
  · rw [List.mem_singleton.mp hend]

/-- The token span is the node's own span, or it runs from the first to the last token. -/
theorem tokenSpan_cases (n : Node) :
    n.tokenSpan = n.span ∨
      ∃ first last, (n.children.filter (!·.isComment)).head? = some first ∧
        (n.children.filter (!·.isComment)).getLast? = some last ∧
        n.tokenSpan = ⟨first.start, last.stop⟩ := by
  unfold tokenSpan
  simp only
  split
  · next first last hfirst hlast =>
    split
    · exact Or.inl rfl
    · exact Or.inr ⟨first, last, hfirst, hlast, rfl⟩
  · exact Or.inl rfl

theorem Nested.forward_tokens {n : Node} (h : n.Nested) :
    ∀ t ∈ n.children.filter (!·.isComment), t.start ≤ t.stop := by
  intro t ht
  exact (h.of_child (List.mem_of_mem_filter ht)).start_le_stop

theorem Nested.ordered_tokens {n : Node} (h : n.Nested) :
    (n.children.filter (!·.isComment)).Pairwise fun c d => c.stop ≤ d.start :=
  (h.ordered n (mem_preorder_self n)).filter _

/-- The tokens of a node lie inside it. -/
theorem Nested.tokenSpan_inside {n : Node} (h : n.Nested) :
    n.start ≤ n.tokenSpan.start ∧ n.tokenSpan.start ≤ n.tokenSpan.stop ∧
      n.tokenSpan.stop ≤ n.stop := by
  rcases n.tokenSpan_cases with hspan | ⟨first, last, hfirst, hlast, hspan⟩
  · rw [hspan]
    exact ⟨Nat.le_refl _, h.start_le_stop, Nat.le_refl _⟩
  · have hfirstMem := List.mem_of_head? hfirst
    have hlastMem := List.mem_of_getLast? hlast
    have hstart := h.inside n (mem_preorder_self n) first (List.mem_of_mem_filter hfirstMem)
    have hstop := h.inside n (mem_preorder_self n) last (List.mem_of_mem_filter hlastMem)
    have hle := start_le_of_head? h.forward_tokens h.ordered_tokens hfirst hlastMem
    rw [hspan]
    exact ⟨hstart.1, Nat.le_trans hle (h.forward_tokens last hlastMem), hstop.2⟩

/-- A child that is not a comment lies inside the span of the tokens. -/
theorem Nested.tokenSpan_covers {c n : Node} (h : n.Nested) (hc : c ∈ n.children)
    (htoken : c.isComment = false) :
    n.tokenSpan.start ≤ c.start ∧ c.stop ≤ n.tokenSpan.stop := by
  rcases n.tokenSpan_cases with hspan | ⟨first, last, hfirst, hlast, hspan⟩
  · rw [hspan]
    exact h.inside n (mem_preorder_self n) c hc
  · have hmem : c ∈ n.children.filter (!·.isComment) :=
      List.mem_filter.mpr ⟨hc, by rw [htoken]; rfl⟩
    rw [hspan]
    exact ⟨start_le_of_head? h.forward_tokens h.ordered_tokens hfirst hmem,
      stop_le_of_getLast? h.forward_tokens h.ordered_tokens hlast hmem⟩

/-- So does everything below such a child.  A comment has nothing below it. -/
theorem Nested.tokenSpan_covers_descendant {m n : Node} (h : n.Nested)
    (hleaf : n.LeafComments) (hm : m ∈ n.descendants) (htoken : m.isComment = false) :
    n.tokenSpan.start ≤ m.start ∧ m.stop ≤ n.tokenSpan.stop := by
  rw [descendants_eq] at hm
  obtain ⟨c, hc, hm⟩ := List.mem_flatMap.mp hm
  have hcomment : c.isComment = false := by
    cases hcase : c.isComment with
    | false => rfl
    | true =>
      have hchildren := hleaf c (mem_preorder_of_child hc (mem_preorder_self c)) hcase
      rw [preorder_eq, descendants_eq, hchildren] at hm
      rw [List.mem_singleton.mp hm, hcase] at htoken
      cases htoken
  obtain ⟨hstart, hstop⟩ := h.tokenSpan_covers hc hcomment
  obtain ⟨hcstart, hcstop⟩ := (h.of_child hc).bounds hm
  exact ⟨Nat.le_trans hstart hcstart, Nat.le_trans hcstop hstop⟩

end Node

/-! ### Content -/

namespace Source

/-- The content of a node whose tokens lie in the source: the node itself, or its tokens trimmed. -/
theorem contentSpan_cases {s : Source} {n : Node}
    (hforward : n.tokenSpan.start ≤ n.tokenSpan.stop) (hsize : n.tokenSpan.stop ≤ s.size) :
    (s.contentSpan n = .ok n.span ∧ ∀ b ∈ s.slice n.tokenSpan, isBlankByte b = true) ∨
      ∃ content, s.contentSpan n = .ok content ∧ s.Trimmed n.tokenSpan content := by
  have hbackwards : ¬ n.tokenSpan.stop < n.tokenSpan.start := by omega
  have hbeyond : ¬ s.size < n.tokenSpan.stop := by omega
  simp only [contentSpan, if_neg hbackwards, if_neg hbeyond]
  split
  · next hempty =>
    refine Or.inl ⟨rfl, fun b hb => ?_⟩
    rw [slice, hempty, Nat.sub_self, List.take_zero] at hb
    cases hb
  · split
    · next hblank =>
      refine Or.inl ⟨rfl, fun b hb => ?_⟩
      have hall := (List.takeWhile_prefix isBlankByte).eq_of_length hblank
      rw [← hall] at hb
      exact List.mem_takeWhile_imp hb
    · next hvisible =>
      exact Or.inr ⟨_, rfl, trimmed_runs hforward hsize hvisible⟩

variable {s : Source} {n root : Node}

/-- In a well-formed tree every node has a content, and it lies inside the node. -/
theorem contentSpan_inside (h : root.WellFormed s) (hn : n ∈ root.preorder) :
    ∃ content, s.contentSpan n = .ok content ∧ n.start ≤ content.start ∧
      content.start ≤ content.stop ∧ content.stop ≤ n.stop := by
  have hnested := h.toNested.of_mem hn
  have hsize := Nat.le_trans (h.toNested.bounds hn).2 h.inSource
  obtain ⟨hstart, hforward, hstop⟩ := hnested.tokenSpan_inside
  rcases contentSpan_cases hforward (Nat.le_trans hstop hsize) with
    ⟨hcontent, -⟩ | ⟨content, hcontent, htrim⟩
  · exact ⟨n.span, hcontent, Nat.le_refl _, hnested.start_le_stop, Nat.le_refl _⟩
  · exact ⟨content, hcontent, Nat.le_trans hstart htrim.start_le, Nat.le_of_lt htrim.forward,
      Nat.le_trans htrim.stop_le hstop⟩

/-- A node below which something visible stands outside of comments: its content is what is left of its
tokens without blanks, and reaches over the visible part. -/
theorem contentSpan_reaches {m : Node} (h : root.WellFormed s) (hleaf : root.LeafComments)
    (hn : n ∈ root.preorder) (hm : m ∈ n.descendants) (htoken : m.isComment = false)
    (hvisible : ∃ b ∈ m.bytes s, isBlankByte b = false) :
    ∃ content, s.contentSpan n = .ok content ∧ s.Trimmed n.tokenSpan content ∧
      content.start < m.stop ∧ m.start < content.stop := by
  have hnested := h.toNested.of_mem hn
  have hsize := Nat.le_trans (h.toNested.bounds hn).2 h.inSource
  have hleafn : n.LeafComments := fun x hx => hleaf x (Node.mem_preorder_trans hx hn)
  obtain ⟨-, hforward, hstop⟩ := hnested.tokenSpan_inside
  obtain ⟨hmstart, hmstop⟩ := hnested.tokenSpan_covers_descendant hleafn hm htoken
  obtain ⟨b, hb, hblank⟩ := hvisible
  rcases contentSpan_cases hforward (Nat.le_trans hstop hsize) with
    ⟨-, hall⟩ | ⟨content, hcontent, htrim⟩
  · rw [hall b (mem_slice_mono hmstart hmstop hb)] at hblank
    cases hblank
  · refine ⟨content, hcontent, htrim, ?_, ?_⟩
    · by_contra hbefore
      rw [htrim.lead b (mem_slice_mono hmstart (Nat.le_of_not_lt hbefore) hb)] at hblank
      cases hblank
    · by_contra hafter
      rw [htrim.trail b (mem_slice_mono (Nat.le_of_not_lt hafter) hmstop hb)] at hblank
      cases hblank

end Source

end TreeLint
