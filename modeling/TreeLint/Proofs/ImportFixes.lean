/-
  TreeLint/Proofs/ImportFixes.lean
  ================================
  **What the fixes of leaking imports do.**  A fix replaces the content of an import by a copy of it in
  which the leak is taken out.  Applied to the source it is one small edit: it deletes the attribute and
  the separators after it, or it writes `internal` over the modifier, and every other byte stays
  (`lint_fixes_edit_leak`).  The fixes of one file follow each other, so all of them can be applied, from
  the last to the first (`lint_fixes_follow`).

  That the edit is a proper one rests on two things.  An attribute or modifier that the rule recognises
  has visible text and is no comment, so the content of the import reaches over it.  And where the source
  is valid and the parser cuts at characters, the parts that are copied are whole characters, so decoding
  and encoding them changes nothing.
-/
import TreeLint.Proofs.ContentSpan
import TreeLint.Proofs.ImportFindings

namespace TreeLint

open Text

/-- A valid source, and a tree that cuts it at characters only. -/
structure Node.Aligned (s : Source) (root : Node) : Prop where
  valid : Utf8.IsUtf8 s.bytes
  boundaries : ∀ n ∈ root.preorder, s.IsBoundary n.start ∧ s.IsBoundary n.stop

instance (s : Source) (root : Node) : Decidable (root.Aligned s) :=
  decidable_of_iff
    (Utf8.IsUtf8 s.bytes ∧ ∀ n ∈ root.preorder, s.IsBoundary n.start ∧ s.IsBoundary n.stop)
    ⟨fun h => ⟨h.1, h.2⟩, fun h => ⟨h.valid, h.boundaries⟩⟩

theorem Node.Aligned.boundaries_below {s : Source} {m n root : Node} (h : root.Aligned s)
    (hn : n ∈ root.preorder) (hm : m ∈ n.descendants) :
    s.IsBoundary m.start ∧ s.IsBoundary m.stop :=
  h.boundaries m (Node.mem_preorder_trans (Node.mem_preorder_of_mem_descendants hm) hn)

namespace PublicImport

/-! ### Markers are visible -/

theorem exists_visible_byte {s : Source} {m : Node} (h : m.trimmedText s ≠ []) :
    ∃ b ∈ m.bytes s, isBlankByte b = false := by
  by_contra hnone
  apply h
  apply Node.trimmedText_eq_nil
  intro b hb
  by_contra hblank
  exact hnone ⟨b, hb, Bool.eq_false_iff.mpr hblank⟩

theorem marker_of_isReexport {s : Source} {m : Node} (h : isReexport s m = true) :
    m.isComment = false ∧ ∃ b ∈ m.bytes s, isBlankByte b = false := by
  simp only [isReexport, Bool.and_eq_true, beq_iff_eq] at h
  refine ⟨by rw [Node.isComment, h.1]; decide, exists_visible_byte fun hempty => ?_⟩
  rw [attributeName, hempty] at h
  exact absurd h.2 (by decide)

theorem marker_of_isLeaking {s : Source} {m : Node} (h : isLeaking s m = true) :
    m.isComment = false ∧ ∃ b ∈ m.bytes s, isBlankByte b = false := by
  simp only [isLeaking, Bool.and_eq_true, beq_iff_eq] at h
  refine ⟨by rw [Node.isComment, h.1]; decide, exists_visible_byte fun hempty => ?_⟩
  rw [visibilityLevel, hempty] at h
  exact absurd h.2 (by decide)

/-! ### Separators -/

theorem le_skipSeparators (s : Source) (o : Nat) : o ≤ skipSeparators s o := Nat.le_add_right _ _

theorem separator_ascii {b : UInt8} (hb : isSeparator b = true) : b.toNat < 0x80 := by
  simp only [isSeparator, Bool.or_eq_true, beq_iff_eq] at hb
  rcases hb with ((rfl | rfl) | rfl) | rfl <;> decide

theorem slice_skipSeparators (s : Source) (o : Nat) :
    s.slice ⟨o, skipSeparators s o⟩ = (s.bytes.drop o).takeWhile isSeparator := by
  rw [skipSeparators, Source.slice, Nat.add_sub_cancel_left]
  exact (List.prefix_iff_eq_take.mp (List.takeWhile_prefix _)).symm

theorem isBoundary_skipSeparators {s : Source} {o : Nat} (ho : s.IsBoundary o) :
    s.IsBoundary (skipSeparators s o) := by
  refine ho.forward (le_skipSeparators s o) fun b hb => ?_
  rw [slice_skipSeparators] at hb
  exact separator_ascii (List.mem_takeWhile_imp hb)

/-! ### Where the content is cut -/

theorem isBoundary_tokenSpan {s : Source} {n root : Node} (h : root.Aligned s)
    (hn : n ∈ root.preorder) :
    s.IsBoundary n.tokenSpan.start ∧ s.IsBoundary n.tokenSpan.stop := by
  have hchild : ∀ t ∈ n.children.filter (!·.isComment),
      s.IsBoundary t.start ∧ s.IsBoundary t.stop := by
    intro t ht
    exact h.boundaries_below hn
      (Node.mem_descendants_of_child (List.mem_of_mem_filter ht) t.mem_preorder_self)
  rcases n.tokenSpan_cases with hspan | ⟨first, last, hfirst, hlast, hspan⟩
  · rw [hspan]
    exact h.boundaries n hn
  · rw [hspan]
    exact ⟨(hchild first (List.mem_of_head? hfirst)).1,
      (hchild last (List.mem_of_getLast? hlast)).2⟩

theorem isBoundary_of_trimmed {s : Source} {outer inner : Span} (h : s.Trimmed outer inner)
    (hstart : s.IsBoundary outer.start) (hstop : s.IsBoundary outer.stop) :
    s.IsBoundary inner.start ∧ s.IsBoundary inner.stop :=
  ⟨hstart.forward h.start_le fun b hb => isBlankByte_ascii (h.lead b hb),
    hstop.backward h.stop_le fun b hb => isBlankByte_ascii (h.trail b hb)⟩

/-! ### One fix -/

/-- Where all cuts are boundaries, a spliced text is written as the bytes that it was put together from. -/
theorem encodeString_splice {s : Source} {outer inner : Span} (text : String)
    (houter : s.IsBoundary outer.start ∧ s.IsBoundary outer.stop)
    (hinner : s.IsBoundary inner.start ∧ s.IsBoundary inner.stop) :
    Utf8.encodeString (splice s outer inner text) =
      s.slice ⟨outer.start, inner.start⟩ ++ Utf8.encodeString text ++
        s.slice ⟨inner.stop, outer.stop⟩ := by
  have hvalid : Utf8.IsUtf8 (s.slice ⟨outer.start, inner.start⟩ ++ Utf8.encodeString text ++
      s.slice ⟨inner.stop, outer.stop⟩) :=
    ((houter.1.isUtf8_slice hinner.1).append (Utf8.isUtf8_encodeString text)).append
      (hinner.2.isUtf8_slice houter.2)
  rw [splice, hvalid.encodeString_decodeString]

/-- Putting a spliced text in the place of the outer span changes the inner span only. -/
theorem edit_splice {s : Source} {outer inner : Span} (text : String)
    (houter : s.IsBoundary outer.start ∧ s.IsBoundary outer.stop)
    (hinner : s.IsBoundary inner.start ∧ s.IsBoundary inner.stop) :
    s.edit outer (Utf8.encodeString (splice s outer inner text)) =
      s.edit ⟨max inner.start outer.start, min inner.stop outer.stop⟩ (Utf8.encodeString text) := by
  rw [encodeString_splice text houter hinner, Source.edit_keeping_ends]

/-- The edit that takes the leak out of an import with the given content: the part of the attribute and
of the separators after it that lies in the content goes, or the part of the modifier that lies in the
content becomes `internal`. -/
inductive LeakEdit (s : Source) (n : Node) (content : Span) : Span → String → Prop
  | attribute {a : Node} (ha : n.descendants.find? (isReexport s) = some a) :
      LeakEdit s n content
        ⟨max a.start content.start, min (skipSeparators s a.stop) content.stop⟩ ""
  | modifier {m : Node} (hnone : n.descendants.find? (isReexport s) = none)
      (hm : n.descendants.find? (isLeaking s) = some m) :
      LeakEdit s n content ⟨max m.start content.start, min m.stop content.stop⟩ "internal"

/-- A diagnostic whose fix, applied to the source, makes this edit in its import. -/
def EditsLeak (s : Source) (n : Node) (d : Diagnostic) : Prop :=
  ∃ fix content span text, d.fix = some fix ∧ s.contentSpan n = .ok content ∧
    LeakEdit s n content span text ∧ span.start ≤ span.stop ∧
    s.afterFix? fix = some (s.edit span (Utf8.encodeString text))

section OneFix

variable {c : Context} {n : Node} {content : Span}

/-- The content of an import with a marker below it is cut at characters, and the marker reaches into
it. -/
theorem content_of_marker {m : Node} (hformed : c.root.WellFormed c.source)
    (hcomments : c.root.LeafComments) (haligned : c.root.Aligned c.source)
    (hn : n ∈ c.root.preorder) (hcontent : c.source.contentSpan n = .ok content)
    (hm : m ∈ n.descendants)
    (hmarker : m.isComment = false ∧ ∃ b ∈ m.bytes c.source, isBlankByte b = false) :
    (content.start < m.stop ∧ m.start < content.stop) ∧
      (content.start < content.stop ∧ content.stop ≤ c.source.size) ∧
      c.source.IsBoundary content.start ∧ c.source.IsBoundary content.stop := by
  obtain ⟨_, hsame, htrim, hreaches⟩ :=
    Source.contentSpan_reaches hformed hcomments hn hm hmarker.1 hmarker.2
  obtain rfl := Except.ok.inj (hcontent.symm.trans hsame)
  have hsize : content.stop ≤ c.source.size := by
    have htokens := (hformed.toNested.of_mem hn).tokenSpan_inside.2.2
    exact htrim.stop_le.trans (htokens.trans ((hformed.toNested.bounds hn).2.trans hformed.inSource))
  exact ⟨hreaches, ⟨htrim.forward, hsize⟩, isBoundary_of_trimmed htrim
    (isBoundary_tokenSpan haligned hn).1 (isBoundary_tokenSpan haligned hn).2⟩

/-- A fix that splices a text over a marker below an import: it can be applied, and the edit is inside
the content. -/
theorem afterFix?_of_splice {m : Node} {stop : Nat} {description text : String}
    (hformed : c.root.WellFormed c.source) (hcomments : c.root.LeafComments)
    (haligned : c.root.Aligned c.source) (hn : n ∈ c.root.preorder)
    (hcontent : c.source.contentSpan n = .ok content) (hm : m ∈ n.descendants)
    (hmarker : m.isComment = false ∧ ∃ b ∈ m.bytes c.source, isBlankByte b = false)
    (hstop : m.stop ≤ stop) (hboundary : c.source.IsBoundary stop) :
    max m.start content.start ≤ min stop content.stop ∧
      c.source.afterFix? ⟨description, splice c.source content ⟨m.start, stop⟩ text,
          some (Range.ofSpan c.source content)⟩ =
        some (c.source.edit ⟨max m.start content.start, min stop content.stop⟩
          (Utf8.encodeString text)) := by
  obtain ⟨⟨hbefore, hafter⟩, ⟨hforward, hsize⟩, houter⟩ :=
    content_of_marker hformed hcomments haligned hn hcontent hm hmarker
  have hmstop : m.start ≤ m.stop :=
    ((hformed.toNested.of_mem hn).of_mem (Node.mem_preorder_of_mem_descendants hm)).start_le_stop
  have hmstart : c.source.IsBoundary m.start := (haligned.boundaries_below hn hm).1
  have hspan : Fix.span? c.source ⟨description, splice c.source content ⟨m.start, stop⟩ text,
      some (Range.ofSpan c.source content)⟩ = some content :=
    Source.span?_of_isAt ⟨rfl, hforward.le, hsize⟩
  refine ⟨by omega, ?_⟩
  rw [Source.afterFix?, hspan, Option.map_some, Fix.bytes, edit_splice text houter ⟨hmstart, hboundary⟩]

/-- The fix of a reported import takes its leak out and leaves every other byte. -/
theorem Reports.fix_edits_leak {severity : Severity} {d : Diagnostic}
    (hformed : c.root.WellFormed c.source) (hcomments : c.root.LeafComments)
    (haligned : c.root.Aligned c.source) (hn : n ∈ c.root.preorder)
    (hd : Reports severity c n d) : EditsLeak c.source n d := by
  cases hd with
  | @reexported path content a hpath hcontent ha =>
    have hmem := List.mem_of_find?_eq_some ha
    have hstop : c.source.IsBoundary a.stop := (haligned.boundaries_below hn hmem).2
    exact ⟨_, content, _, _, rfl, hcontent, .attribute ha,
      afterFix?_of_splice hformed hcomments haligned hn hcontent hmem
        (marker_of_isReexport (List.find?_some ha)) (le_skipSeparators c.source a.stop)
        (isBoundary_skipSeparators hstop)⟩
  | @visible path content m hpath hcontent hnone hm =>
    have hmem := List.mem_of_find?_eq_some hm
    have hstop : c.source.IsBoundary m.stop := (haligned.boundaries_below hn hmem).2
    have hfind : n.descendants.find? (isReexport c.source) = none :=
      List.find?_eq_none.mpr fun x hx => Bool.eq_false_iff.mp (hnone x hx)
    exact ⟨_, content, _, _, rfl, hcontent, .modifier hfind hm,
      afterFix?_of_splice hformed hcomments haligned hn hcontent hmem
        (marker_of_isLeaking (List.find?_some hm)) le_rfl hstop⟩

end OneFix

/-! ### All fixes of a file -/

/-- On a well-formed tree the rule returns its diagnostics: every content can be found. -/
theorem lint_of_wellFormed (settings : Option Settings) {c : Context}
    (hformed : c.root.WellFormed c.source) :
    ∃ found, ((definition.create settings).lint c).value = .ok found ∧
      List.Forall₂ (Reports (severityUnder settings) c) (reported c.source c.root) found := by
  have hspans : ∀ n ∈ reported c.source c.root,
      ∃ content, c.source.contentSpan n = .ok content := by
    intro n hn
    obtain ⟨content, hcontent, -⟩ := Source.contentSpan_inside hformed (Node.mem_outermost hn).1
    exact ⟨content, hcontent⟩
  obtain ⟨found, hreports, hstate, hending⟩ := walk_reports (severityUnder settings) c hspans
  exact ⟨found, lint_of_walk settings c hstate hending, hreports⟩

/-- What holds of every diagnostic that can be reported for a node of the tree holds of the findings. -/
theorem lint_of_reports (settings : Option Settings) {c : Context} {P : Node → Diagnostic → Prop}
    (hformed : c.root.WellFormed c.source)
    (h : ∀ n ∈ c.root.preorder, ∀ d, Reports (severityUnder settings) c n d → P n d) :
    ∃ found, ((definition.create settings).lint c).value = .ok found ∧
      List.Forall₂ P (reported c.source c.root) found := by
  obtain ⟨found, hvalue, hreports⟩ := lint_of_wellFormed settings hformed
  have hmem : ∀ n ∈ reported c.source c.root, n ∈ c.root.preorder := by
    intro n hn
    exact (Node.mem_outermost hn).1
  refine ⟨found, hvalue, ((List.forall₂_and_left _ _).mpr ⟨hmem, hreports⟩).imp ?_⟩
  rintro n d ⟨hn, hd⟩
  exact h n hn d hd

/-- **Each fix takes the leak out of its import and changes nothing else.**  For valid source text and a
well-formed tree that cuts it at characters, applying the fix of a diagnostic is one edit of the
source. -/
theorem lint_fixes_edit_leak (settings : Option Settings) (c : Context)
    (hformed : c.root.WellFormed c.source) (hcomments : c.root.LeafComments)
    (haligned : c.root.Aligned c.source) :
    ∃ found, ((definition.create settings).lint c).value = .ok found ∧
      List.Forall₂ (EditsLeak c.source) (reported c.source c.root) found := by
  apply lint_of_reports settings hformed
  intro n hn d hd
  exact hd.fix_edits_leak hformed hcomments haligned hn

theorem lint_fixes_edit_leak_sample :
    sampleContext.root.WellFormed sampleContext.source ∧ sampleContext.root.LeafComments ∧
      sampleContext.root.Aligned sampleContext.source ∧
      ∃ found, ((definition.create none).lint sampleContext).value = .ok found ∧
        List.Forall₂ (EditsLeak sampleContext.source)
          (reported sampleContext.source sampleContext.root) found :=
  ⟨by decide, by decide, by decide,
    lint_fixes_edit_leak none sampleContext (by decide) (by decide) (by decide)⟩

/-- A reported import has a fix whose range was made from a span inside the import. -/
theorem Reports.exists_fix {severity : Severity} {c : Context} {n : Node} {d : Diagnostic}
    (hformed : c.root.WellFormed c.source) (hn : n ∈ c.root.preorder)
    (hd : Reports severity c n d) :
    ∃ fix span, d.fix = some fix ∧ fix.IsAt c.source span ∧ n.start ≤ span.start ∧
      span.stop ≤ n.stop := by
  obtain ⟨content, hcontent, hstart, hforward, hstop⟩ := Source.contentSpan_inside hformed hn
  have hsize := hstop.trans ((hformed.toNested.bounds hn).2.trans hformed.inSource)
  cases hd with
  | reexported _ hsame _ =>
    obtain rfl := Except.ok.inj (hcontent.symm.trans hsame)
    exact ⟨_, content, rfl, ⟨rfl, hforward, hsize⟩, hstart, hstop⟩
  | visible _ hsame _ _ =>
    obtain rfl := Except.ok.inj (hcontent.symm.trans hsame)
    exact ⟨_, content, rfl, ⟨rfl, hforward, hsize⟩, hstart, hstop⟩

/-- The fixes of reported imports and the spans that their ranges were made from. -/
theorem exists_placed {severity : Severity} {c : Context} (hformed : c.root.WellFormed c.source)
    {ns : List Node} {found : List Diagnostic} (hmem : ∀ n ∈ ns, n ∈ c.root.preorder)
    (hreports : List.Forall₂ (Reports severity c) ns found) :
    ∃ placed : List (Fix × Span), found.map Diagnostic.fix = placed.map (some ·.1) ∧
      List.Forall₂ (fun n x => x.1.IsAt c.source x.2 ∧ n.start ≤ x.2.start ∧ x.2.stop ≤ n.stop)
        ns placed := by
  induction hreports with
  | nil => exact ⟨[], rfl, .nil⟩
  | @cons n d ns found hd _ ih =>
    obtain ⟨placed, hfixes, hplaced⟩ := ih fun m hm => hmem m (List.mem_cons_of_mem n hm)
    obtain ⟨fix, span, hfix, hspan⟩ := hd.exists_fix hformed (hmem n List.mem_cons_self)
    refine ⟨(fix, span) :: placed, ?_, .cons hspan hplaced⟩
    rw [List.map_cons, List.map_cons, hfix, hfixes]

/-- The fixes of diagnostics, each with its span: the spans follow each other, and so do the ranges.
Applied from the last to the first, each fix puts its replacement in the place of its own span, and every
byte outside the spans stays. -/
structure FollowingFixes (s : Source) (found : List Diagnostic) (placed : List (Fix × Span)) :
    Prop where
  fixes : found.map Diagnostic.fix = placed.map (some ·.1)
  spans : ∀ x ∈ placed, x.1.span? s = some x.2 ∧ x.2.start ≤ x.2.stop ∧ x.2.stop ≤ s.size
  ordered : placed.Pairwise fun x y => x.2.stop ≤ y.2.start
  ranges : placed.Pairwise fun x y => ∃ r q, x.1.range = some r ∧ y.1.range = some q ∧
    r.stop.position ≤ q.start.position
  applied : s.afterFixes? (placed.map Prod.fst) = some ⟨s.weave 0 placed⟩

/-- **The fixes of one file follow each other.**  On a well-formed tree the range of each fix ends where
the range of a later one begins, or before it, so all of them can be applied. -/
theorem lint_fixes_follow (settings : Option Settings) (c : Context)
    (hformed : c.root.WellFormed c.source) :
    ∃ found placed, ((definition.create settings).lint c).value = .ok found ∧
      FollowingFixes c.source found placed := by
  obtain ⟨found, hvalue, hreports⟩ := lint_of_wellFormed settings hformed
  obtain ⟨placed, hfixes, hinside⟩ := exists_placed hformed (fun n hn => (Node.mem_outermost hn).1)
    hreports
  have hat : ∀ x ∈ placed, x.1.IsAt c.source x.2 := by
    intro x hx
    obtain ⟨i, hi, rfl⟩ := List.getElem_of_mem hx
    exact (hinside.get (hinside.length_eq ▸ hi) hi).1
  have hordered : placed.Pairwise fun x y => x.2.stop ≤ y.2.start := by
    have hnodes := Node.pairwise_outermost (isFlagged c.source) hformed.toNested
    rw [List.pairwise_iff_getElem] at hnodes ⊢
    intro i j hi hj hij
    have hfirst := hinside.get (hinside.length_eq ▸ hi) hi
    have hsecond := hinside.get (hinside.length_eq ▸ hj) hj
    exact hfirst.2.2.trans ((hnodes i j _ _ hij).trans hsecond.2.1)
  refine ⟨found, placed, hvalue, hfixes, ?_, hordered, ?_,
    Source.afterFixes?_eq_weave hat hordered⟩
  · intro x hx
    exact ⟨Source.span?_of_isAt (hat x hx), (hat x hx).forward, (hat x hx).inSource⟩
  · refine hordered.imp_of_mem ?_
    intro x y hx hy hxy
    have hsize := (hat y hy).forward.trans (hat y hy).inSource
    exact ⟨_, _, (hat x hx).range_eq, (hat y hy).range_eq, c.source.position_mono hxy hsize⟩

theorem lint_fixes_follow_sample :
    sampleContext.root.WellFormed sampleContext.source ∧
      ∃ found placed, ((definition.create none).lint sampleContext).value = .ok found ∧
        FollowingFixes sampleContext.source found placed :=
  ⟨by decide, lint_fixes_follow none sampleContext (by decide)⟩

example :
    (match ((definition.create none).lint sampleContext).value with
      | .ok found => sampleContext.source.afterFixes? (found.filterMap Diagnostic.fix)
      | .error _ => none) =
      some (Source.ofString "import A // é\ninternal import B\nimport C\n") := by
  decide +kernel

end PublicImport

end TreeLint
