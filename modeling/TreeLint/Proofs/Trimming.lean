/-
  TreeLint/Proofs/Trimming.lean
  =============================
  **Trimming a span byte by byte.**  The content of a node can be found by two scans that look at one byte
  after the other.  The first moves the start of the span forward over blanks; the second moves the stop
  backward, not beyond where the first has come to rest.  A look beyond the end of the file is an error
  (`Source.scan`).

  Nothing is asked of the spans here: they may be empty, run backwards or leave the file.  What a scan
  does is told by what it has passed and by the byte at which it rests (`skipLead_of_inside`,
  `skipTrail_of_inside`).  Two spans that leave out all blanks at the edges of a third and no more are the
  same (`Exact.unique`), so the scans find the content that `Source.contentSpan` has
  (`scan_eq_contentSpan`).

  The main statement is `contentSpan_trims_exactly`: when a content is an error, and what it is otherwise.
-/
import TreeLint.Proofs.TokenEdges

namespace TreeLint

/-! ### The span that is trimmed -/

namespace Node

/-- The span of a node before blanks are trimmed: from the first to the last child that is no comment,
if the node has comments and other children, and the node's own span if it has not both. -/
inductive Untrimmed (n : Node) : Span → Prop
  | tokens {first last : Node} (hcomment : ∃ c ∈ n.children, c.isComment = true)
      (hfirst : n.children.find? (!·.isComment) = some first)
      (hlast : n.children.reverse.find? (!·.isComment) = some last) :
      Untrimmed n ⟨first.start, last.stop⟩
  | whole (h : ¬((∃ c ∈ n.children, c.isComment = true) ∧ ∃ c ∈ n.children, c.isComment = false)) :
      Untrimmed n ⟨n.start, n.stop⟩

theorem length_tokens_ne {n : Node} (hcomment : ∃ c ∈ n.children, c.isComment = true) :
    (n.children.filter (!·.isComment)).length ≠ n.children.length := by
  intro hall
  obtain ⟨c, hc, hcomment⟩ := hcomment
  have htoken := List.length_filter_eq_length_iff.mp hall c hc
  rw [hcomment] at htoken
  cases htoken

theorem Untrimmed.eq_tokenSpan {n : Node} {span : Span} (h : n.Untrimmed span) :
    span = n.tokenSpan := by
  cases h with
  | @tokens first last hcomment hfirst hlast =>
    have hhead : (n.children.filter (!·.isComment)).head? = some first := by
      rw [List.head?_filter, hfirst]
    have hend : (n.children.filter (!·.isComment)).getLast? = some last := by
      rw [List.getLast?_eq_head?_reverse, ← List.filter_reverse, List.head?_filter, hlast]
    simp only [tokenSpan, hhead, hend, if_neg (length_tokens_ne hcomment)]
  | whole h =>
    rcases n.tokenSpan_cases with hspan | ⟨first, last, hfirst, -, -⟩
    · exact hspan.symm
    · -- a token among the children, so no comment
      have hmem := List.mem_filter.mp (List.mem_of_head? hfirst)
      have hnone : ∀ c ∈ n.children, (!c.isComment) = true := by
        intro c hc
        by_contra hcomment
        exact h ⟨⟨c, hc, by simpa using hcomment⟩, first, hmem.1, by simpa using hmem.2⟩
      have hall : (n.children.filter (!·.isComment)).length = n.children.length :=
        List.length_filter_eq_length_iff.mpr hnone
      unfold tokenSpan
      simp only [hall, if_true]
      split <;> rfl

theorem exists_untrimmed (n : Node) : ∃ span, n.Untrimmed span := by
  by_cases h : (∃ c ∈ n.children, c.isComment = true) ∧ ∃ c ∈ n.children, c.isComment = false
  · obtain ⟨hcomment, t, ht, htoken⟩ := h
    have hfirst : (n.children.find? (!·.isComment)).isSome = true :=
      List.find?_isSome.mpr ⟨t, ht, by simp [htoken]⟩
    have hlast : (n.children.reverse.find? (!·.isComment)).isSome = true :=
      List.find?_isSome.mpr ⟨t, List.mem_reverse.mpr ht, by simp [htoken]⟩
    obtain ⟨first, hfirst⟩ := Option.isSome_iff_exists.mp hfirst
    obtain ⟨last, hlast⟩ := Option.isSome_iff_exists.mp hlast
    exact ⟨_, .tokens hcomment hfirst hlast⟩
  · exact ⟨_, .whole h⟩

theorem untrimmed_iff {n : Node} {span : Span} : n.Untrimmed span ↔ span = n.tokenSpan := by
  constructor
  · exact Untrimmed.eq_tokenSpan
  · rintro rfl
    obtain ⟨span, hspan⟩ := n.exists_untrimmed
    rwa [← hspan.eq_tokenSpan]

end Node

namespace Source

/-! ### Two scans -/

/-- Moves a start forward over blanks, up to a stop. -/
def skipLead (s : Source) (start stop : Nat) : Except SpanError Nat :=
  if start < stop then
    match s.bytes[start]? with
    | none => .error .outOfRange
    | some b => if isBlankByte b then s.skipLead (start + 1) stop else .ok start
  else .ok start
termination_by stop - start

/-- Moves a stop backward over blanks, down to a start. -/
def skipTrail (s : Source) (start stop : Nat) : Except SpanError Nat :=
  if start < stop then
    match s.bytes[stop - 1]? with
    | none => .error .outOfRange
    | some b => if isBlankByte b then s.skipTrail start (stop - 1) else .ok stop
  else .ok stop
termination_by stop - start

/-- The content of a node, found by moving both ends of its token span.  Where they meet, nothing is
left, and the node keeps its own span. -/
def scan (s : Source) (n : Node) : Except SpanError Span := do
  let start ← s.skipLead n.tokenSpan.start n.tokenSpan.stop
  let stop ← s.skipTrail start n.tokenSpan.stop
  pure (if start = stop then n.span else ⟨start, stop⟩)

variable {s : Source} {start stop : Nat} {outer : Span}

theorem blankAt_of_getElem? {i : Nat} {b : UInt8} (h : s.bytes[i]? = some b) :
    s.blankAt i = isBlankByte b := by
  rw [blankAt, h, Option.any_some]

theorem skipLead_of_le (h : stop ≤ start) : s.skipLead start stop = .ok start := by
  rw [skipLead, if_neg (by omega)]

theorem skipTrail_of_le (h : stop ≤ start) : s.skipTrail start stop = .ok stop := by
  rw [skipTrail, if_neg (by omega)]

/-- The first scan passes blanks only, and rests at the stop or before something visible. -/
theorem skipLead_of_inside (hle : start ≤ stop) (hsize : stop ≤ s.size) :
    ∃ i, s.skipLead start stop = .ok i ∧ start ≤ i ∧ i ≤ stop ∧
      (∀ j, start ≤ j → j < i → s.blankAt j = true) ∧ (i < stop → s.blankAt i = false) := by
  fun_induction skipLead s start stop with
  | case1 start hlt hnone =>
    have hsome := List.getElem?_eq_none_iff.mp hnone
    have hsize : stop ≤ s.bytes.length := hsize
    omega
  | case2 start hlt b hb hblank ih =>
    obtain ⟨i, hi, hstart, hstop, hpassed, hrest⟩ := ih (by omega)
    refine ⟨i, hi, by omega, hstop, ?_, hrest⟩
    intro j hj hji
    by_cases hfirst : j = start
    · rw [hfirst, blankAt_of_getElem? hb, hblank]
    · exact hpassed j (by omega) hji
  | case3 start hlt b hb hvisible =>
    refine ⟨start, rfl, Nat.le_refl _, hle, fun j hj hji => by omega, fun _ => ?_⟩
    rw [blankAt_of_getElem? hb, Bool.eq_false_iff]
    exact hvisible
  | case4 start hge => exact ⟨start, rfl, Nat.le_refl _, hle, fun j hj hji => by omega, by omega⟩

/-- The second scan passes blanks only, and rests at the start or after something visible. -/
theorem skipTrail_of_inside (hle : start ≤ stop) (hsize : stop ≤ s.size) :
    ∃ i, s.skipTrail start stop = .ok i ∧ start ≤ i ∧ i ≤ stop ∧
      (∀ j, i ≤ j → j < stop → s.blankAt j = true) ∧ (start < i → s.blankAt (i - 1) = false) := by
  fun_induction skipTrail s start stop with
  | case1 stop hlt hnone =>
    have hsome := List.getElem?_eq_none_iff.mp hnone
    have hsize : stop ≤ s.bytes.length := hsize
    omega
  | case2 stop hlt b hb hblank ih =>
    obtain ⟨i, hi, hstart, hstop, hpassed, hrest⟩ := ih (by omega) (by omega)
    refine ⟨i, hi, hstart, by omega, ?_, hrest⟩
    intro j hij hj
    by_cases hlast : j = stop - 1
    · rw [hlast, blankAt_of_getElem? hb, hblank]
    · exact hpassed j hij (by omega)
  | case3 stop hlt b hb hvisible =>
    refine ⟨stop, rfl, hle, Nat.le_refl _, fun j hij hj => by omega, fun _ => ?_⟩
    rw [blankAt_of_getElem? hb, Bool.eq_false_iff]
    exact hvisible
  | case4 stop hge => exact ⟨stop, rfl, hle, Nat.le_refl _, fun j hij hj => by omega, by omega⟩

/-- With a stop beyond the file, the first scan fails or rests before the stop. -/
theorem skipLead_of_beyond (hlt : start < stop) (hbeyond : s.size < stop) :
    s.skipLead start stop = .error .outOfRange ∨ ∃ i, s.skipLead start stop = .ok i ∧ i < stop := by
  fun_induction skipLead s start stop with
  | case1 start _ hnone => exact Or.inl rfl
  | case2 start _ b hb hblank ih =>
    have hinside := (List.getElem?_eq_some_iff.mp hb).1
    have hbeyond : s.bytes.length < stop := hbeyond
    exact ih (by omega)
  | case3 start _ b hb hvisible => exact Or.inr ⟨start, rfl, hlt⟩
  | case4 start hge => exact absurd hlt hge

theorem skipTrail_of_beyond (hlt : start < stop) (hbeyond : s.size < stop) :
    s.skipTrail start stop = .error .outOfRange := by
  have hnone : s.bytes[stop - 1]? = none := by
    have hbeyond : s.bytes.length < stop := hbeyond
    exact List.getElem?_eq_none (by omega)
  rw [skipTrail, if_pos hlt, hnone]

variable {n : Node}

theorem scan_of_rests (hlead : s.skipLead n.tokenSpan.start n.tokenSpan.stop = .ok start)
    (htrail : s.skipTrail start n.tokenSpan.stop = .ok stop) :
    s.scan n = .ok (if start = stop then n.span else ⟨start, stop⟩) := by
  rw [scan, hlead]
  change (s.skipTrail start n.tokenSpan.stop >>= _) = _
  rw [htrail]
  rfl

theorem scan_of_beyond (hlt : n.tokenSpan.start < n.tokenSpan.stop)
    (hbeyond : s.size < n.tokenSpan.stop) : s.scan n = .error .outOfRange := by
  rcases skipLead_of_beyond hlt hbeyond with hlead | ⟨i, hlead, hi⟩
  · rw [scan, hlead]
    rfl
  · rw [scan, hlead]
    change (s.skipTrail i n.tokenSpan.stop >>= _) = _
    rw [skipTrail_of_beyond hi hbeyond]
    rfl

/-! ### Exactly the blanks at the edges -/

/-- An inner span that leaves out the blanks at the edges of an outer one, and nothing else. -/
structure Exact (s : Source) (outer inner : Span) : Prop extends Trimmed s outer inner where
  begins : s.blankAt inner.start = false
  ends : s.blankAt (inner.stop - 1) = false

theorem Exact.start_le_start {x y : Span} (hsize : outer.stop ≤ s.size) (hx : s.Exact outer x)
    (hy : s.Exact outer y) : x.start ≤ y.start := by
  by_contra hlt
  have hstop := hy.stop_le
  have hforward := hy.forward
  have hblank := blankAt_of_slice hx.lead hy.start_le (by omega) (by omega)
  rw [hy.begins] at hblank
  cases hblank

theorem Exact.stop_le_stop {x y : Span} (hsize : outer.stop ≤ s.size) (hx : s.Exact outer x)
    (hy : s.Exact outer y) : y.stop ≤ x.stop := by
  by_contra hlt
  have hstop := hy.stop_le
  have hforward := hy.forward
  have hblank := blankAt_of_slice hx.trail (i := y.stop - 1) (by omega) (by omega) (by omega)
  rw [hy.ends] at hblank
  cases hblank

theorem Exact.unique {x y : Span} (hsize : outer.stop ≤ s.size) (hx : s.Exact outer x)
    (hy : s.Exact outer y) : x = y := by
  have hstart := Nat.le_antisymm (hx.start_le_start hsize hy) (hy.start_le_start hsize hx)
  have hstop := Nat.le_antisymm (hy.stop_le_stop hsize hx) (hx.stop_le_stop hsize hy)
  cases x
  cases y
  simp_all

theorem exists_visible {span : Span} {b : UInt8} (hb : b ∈ s.slice span)
    (hvisible : isBlankByte b = false) :
    ∃ i, span.start ≤ i ∧ i < span.stop ∧ s.blankAt i = false := by
  obtain ⟨k, hk⟩ := List.mem_iff_getElem?.mp hb
  have hlt : k < span.stop - span.start := by
    have hinside := (List.getElem?_eq_some_iff.mp hk).1
    rw [slice, List.length_take] at hinside
    omega
  have hbyte : s.bytes[span.start + k]? = some b := by
    rw [← s.getElem?_slice hlt]
    exact hk
  exact ⟨span.start + k, by omega, by omega, by rw [blankAt_of_getElem? hbyte, hvisible]⟩

theorem blank_slice {span : Span}
    (h : ∀ i, span.start ≤ i → i < span.stop → s.blankAt i = true) :
    ∀ b ∈ s.slice span, isBlankByte b = true := by
  intro b hb
  by_contra hvisible
  obtain ⟨i, hi, hi', hblank⟩ := exists_visible hb (Bool.eq_false_iff.mpr hvisible)
  rw [h i hi hi'] at hblank
  cases hblank

theorem blank_slice_of_le {span : Span} (h : span.stop ≤ span.start) :
    ∀ b ∈ s.slice span, isBlankByte b = true := by
  apply blank_slice
  intro i hi hi'
  omega

/-! ### Contents -/

theorem contentSpan_of_backwards (h : n.tokenSpan.stop < n.tokenSpan.start) :
    s.contentSpan n = .ok n.tokenSpan := by
  simp only [contentSpan, if_pos h]

theorem contentSpan_of_beyond (hlt : n.tokenSpan.start < n.tokenSpan.stop)
    (hbeyond : s.size < n.tokenSpan.stop) : s.contentSpan n = .error .outOfRange := by
  simp only [contentSpan]
  rw [if_neg (by omega), if_neg (by omega), if_pos hbeyond]

theorem contentSpan_of_blank (hle : n.tokenSpan.start ≤ n.tokenSpan.stop)
    (hsize : n.tokenSpan.start < n.tokenSpan.stop → n.tokenSpan.stop ≤ s.size)
    (hblank : ∀ b ∈ s.slice n.tokenSpan, isBlankByte b = true) : s.contentSpan n = .ok n.span := by
  simp only [contentSpan]
  rw [if_neg (by omega)]
  by_cases hempty : n.tokenSpan.start = n.tokenSpan.stop
  · rw [if_pos hempty]
  · have hall : (s.slice n.tokenSpan).takeWhile isBlankByte = s.slice n.tokenSpan :=
      List.takeWhile_eq_self_iff.mpr hblank
    have hinside := hsize (by omega)
    rw [if_neg hempty, if_neg (by omega), if_pos (by rw [hall])]

theorem contentSpan_of_visible {i : Nat} (hsize : n.tokenSpan.stop ≤ s.size)
    (hstart : n.tokenSpan.start ≤ i) (hstop : i < n.tokenSpan.stop) (hi : s.blankAt i = false) :
    ∃ content, s.contentSpan n = .ok content ∧ s.Exact n.tokenSpan content := by
  obtain ⟨content, hcontent, htrim, hbegins, hends⟩ := contentSpan_visible hsize hstart hstop hi
  exact ⟨content, hcontent, { htrim with begins := hbegins, ends := hends }⟩

theorem contentSpan_of_exact {content : Span} (hsize : n.tokenSpan.stop ≤ s.size)
    (h : s.Exact n.tokenSpan content) : s.contentSpan n = .ok content := by
  obtain ⟨found, hfound, hexact⟩ := contentSpan_of_visible hsize h.start_le
    (Nat.lt_of_lt_of_le h.forward h.stop_le) h.begins
  rw [hfound, hexact.unique hsize h]

/-- Trimming what has been trimmed changes nothing. -/
theorem contentSpan_of_trimmed {content : Span} (hsize : outer.stop ≤ s.size)
    (h : s.Exact outer content) (kind : String) (named : Bool) :
    s.contentSpan ⟨kind, content.start, content.stop, named, []⟩ = .ok content := by
  have hself : s.Exact content content :=
    ⟨⟨Nat.le_refl _, h.forward, Nat.le_refl _, blank_slice_of_le (Nat.le_refl _),
      blank_slice_of_le (Nat.le_refl _)⟩, h.begins, h.ends⟩
  exact contentSpan_of_exact (Nat.le_trans h.stop_le hsize) hself

theorem scan_of_inside (hle : n.tokenSpan.start ≤ n.tokenSpan.stop)
    (hsize : n.tokenSpan.stop ≤ s.size) : s.scan n = s.contentSpan n := by
  obtain ⟨i, hlead, hstart, hstop, hpassed, hrest⟩ := skipLead_of_inside hle hsize
  by_cases hall : i = n.tokenSpan.stop
  · -- the first scan has passed the whole span
    subst hall
    rw [contentSpan_of_blank hle (fun _ => hsize) (blank_slice hpassed),
      scan_of_rests hlead (skipTrail_of_le (Nat.le_refl _)), if_pos rfl]
  · have hvisible := hrest (by omega)
    obtain ⟨k, htrail, hik, hk, hpassedBack, hrestBack⟩ := skipTrail_of_inside hstop hsize
    -- the second scan cannot pass the visible byte at which the first one rests
    have hlt : i < k := by
      by_contra hge
      have hblank := hpassedBack i (by omega) (by omega)
      rw [hvisible] at hblank
      cases hblank
    have hexact : s.Exact n.tokenSpan ⟨i, k⟩ :=
      ⟨⟨hstart, hlt, hk, blank_slice hpassed, blank_slice hpassedBack⟩, hvisible, hrestBack hlt⟩
    rw [contentSpan_of_exact hsize hexact, scan_of_rests hlead htrail, if_neg (by omega)]

theorem scan_eq_contentSpan (s : Source) (n : Node) : s.scan n = s.contentSpan n := by
  rcases Nat.lt_trichotomy n.tokenSpan.start n.tokenSpan.stop with hlt | hempty | hbackwards
  · by_cases hbeyond : s.size < n.tokenSpan.stop
    · rw [scan_of_beyond hlt hbeyond, contentSpan_of_beyond hlt hbeyond]
    · exact scan_of_inside (by omega) (by omega)
  · -- nothing to look at, wherever the span lies
    rw [contentSpan_of_blank (by omega) (by omega) (blank_slice_of_le (by omega)),
      scan_of_rests (skipLead_of_le (by omega)) (skipTrail_of_le (by omega)), if_pos hempty]
  · rw [contentSpan_of_backwards hbackwards,
      scan_of_rests (skipLead_of_le (by omega)) (skipTrail_of_le (by omega)), if_neg (by omega)]

theorem contentSpan_eq_error_iff :
    s.contentSpan n = .error .outOfRange ↔
      n.tokenSpan.start < n.tokenSpan.stop ∧ s.size < n.tokenSpan.stop := by
  constructor
  · intro herror
    rcases Nat.lt_or_ge n.tokenSpan.stop n.tokenSpan.start with hbackwards | hle
    · rw [contentSpan_of_backwards hbackwards] at herror
      cases herror
    · by_contra hnot
      by_cases hblank : ∀ b ∈ s.slice n.tokenSpan, isBlankByte b = true
      · rw [contentSpan_of_blank hle (by omega) hblank] at herror
        cases herror
      · simp only [not_forall, Bool.not_eq_true] at hblank
        obtain ⟨b, hb, hvisible⟩ := hblank
        obtain ⟨i, hi, hi', hvisible⟩ := exists_visible hb hvisible
        obtain ⟨content, hcontent, -⟩ := contentSpan_of_visible (by omega) hi hi' hvisible
        rw [hcontent] at herror
        cases herror
  · rintro ⟨hlt, hbeyond⟩
    exact contentSpan_of_beyond hlt hbeyond

/-- **What the content of a node is**, for all sources and all nodes.  It is an error exactly when the
span that is trimmed runs forwards and beyond the file.  A span that runs backwards stays, a node of
nothing but blanks keeps its own span, and any other content is the one span that leaves out the blanks
at both edges and nothing else; trimming it again changes nothing.  Two scans byte by byte find the
same. -/
theorem contentSpan_trims_exactly (s : Source) (n : Node) :
    ∃ outer, (∀ span, n.Untrimmed span ↔ span = outer) ∧
      (s.contentSpan n = .error .outOfRange ↔ outer.start < outer.stop ∧ s.size < outer.stop) ∧
      (outer.stop < outer.start → s.contentSpan n = .ok outer) ∧
      (outer.start ≤ outer.stop → ¬(outer.start < outer.stop ∧ s.size < outer.stop) →
        (∀ b ∈ s.slice outer, isBlankByte b = true) → s.contentSpan n = .ok n.span) ∧
      (¬(outer.start < outer.stop ∧ s.size < outer.stop) →
        (∃ b ∈ s.slice outer, isBlankByte b = false) →
        ∃ content, s.contentSpan n = .ok content ∧ s.Exact outer content ∧
          (∀ other, s.Exact outer other → other = content) ∧
          ∀ kind named, s.contentSpan ⟨kind, content.start, content.stop, named, []⟩ = .ok content) ∧
      s.scan n = s.contentSpan n := by
  refine ⟨n.tokenSpan, fun span => Node.untrimmed_iff, contentSpan_eq_error_iff,
    contentSpan_of_backwards, ?_, ?_, scan_eq_contentSpan s n⟩
  · intro hle hinside hblank
    exact contentSpan_of_blank hle (by omega) hblank
  · rintro hinside ⟨b, hb, hvisible⟩
    obtain ⟨i, hi, hi', hvisible⟩ := exists_visible hb hvisible
    have hsize : n.tokenSpan.stop ≤ s.size := by omega
    obtain ⟨content, hcontent, hexact⟩ := contentSpan_of_visible hsize hi hi' hvisible
    refine ⟨content, hcontent, hexact, ?_, contentSpan_of_trimmed hsize hexact⟩
    intro other hother
    exact hother.unique hsize hexact

end Source

end TreeLint
