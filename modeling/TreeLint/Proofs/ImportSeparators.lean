/-
  TreeLint/Proofs/ImportSeparators.lean
  =====================================
  **What dropping an attribute leaves of the blanks after it.**  Two scans go past blanks: the one that
  finds the content of an import, and the one that finds what follows a dropped attribute.  They do not
  agree on what a blank is.  The first passes six bytes; the second passes four of them and stops at a
  vertical tab or a form feed.

  So where an import begins with its attribute, the new text begins with a blank exactly when a vertical
  tab or a form feed stands among the blanks after the attribute (`lint_exported_fix_blanks`), and not
  all blanks are always dropped (`exported_fix_keeps_blanks`).

  The source need not be valid text.  What the scan stops at may then be changed by decoding, but never
  into a blank or from one.
-/
import TreeLint.Proofs.ImportFixes
import TreeLint.Proofs.TokenEdges

namespace TreeLint

open Text

/-- Where a run of one class stops, a wider class goes on exactly when its own run has something that is
not of the first class. -/
theorem any_getElem?_takeWhile_iff {α : Type} {p q : α → Bool} (h : ∀ x, p x = true → q x = true)
    (xs : List α) :
    xs[(xs.takeWhile p).length]?.any q = true ↔ ∃ x ∈ xs.takeWhile q, p x = false := by
  induction xs with
  | nil => simp
  | cons x xs ih =>
    cases hp : p x with
    | true =>
      have hq : q x = true := h x hp
      simp [hp, hq, ih]
    | false =>
      cases hq : q x with
      | true => simp [hp, hq]
      | false => simp [hp, hq]

/-- Whether bytes begin with a blank. -/
def beginsBlank (bytes : List UInt8) : Bool := bytes.head?.any isBlankByte

theorem beginsBlank_encode_decode (bytes : List UInt8) :
    beginsBlank (Utf8.encode (Utf8.decode bytes)) = beginsBlank bytes := by
  rw [Bool.eq_iff_iff]
  simp only [beginsBlank, Option.any_eq_true]
  constructor
  · rintro ⟨b, hb, hblank⟩
    exact ⟨b, (Utf8.head?_encode_decode (isBlankByte_ascii hblank) bytes).mp hb, hblank⟩
  · rintro ⟨b, hb, hblank⟩
    exact ⟨b, (Utf8.head?_encode_decode (isBlankByte_ascii hblank) bytes).mpr hb, hblank⟩

theorem Source.beginsBlank_slice {s : Source} {a e : Nat} (hae : a < e) :
    beginsBlank (s.slice ⟨a, e⟩) = s.blankAt a := by
  rw [beginsBlank, List.head?_eq_getElem?, s.getElem?_slice (by omega), Nat.add_zero, blankAt]

namespace PublicImport

/-! ### Separators among blanks -/

theorem isBlankByte_of_isSeparator {b : UInt8} (h : isSeparator b = true) : isBlankByte b = true := by
  simp only [isSeparator, Bool.or_eq_true, beq_iff_eq] at h
  rcases h with ((rfl | rfl) | rfl) | rfl <;> decide

/-- The blanks that are not skipped. -/
theorem isSeparator_eq_false_iff {b : UInt8} (h : isBlankByte b = true) :
    isSeparator b = false ↔ b = 0x0B ∨ b = 0x0C := by
  have hcases := isBlankByte_cases h
  constructor
  · intro hskipped
    simp only [isSeparator, Bool.or_eq_false_iff, beq_eq_false_iff_ne, ne_eq, ← UInt8.toNat_inj,
      UInt8.reduceToNat] at hskipped
    simp only [← UInt8.toNat_inj, UInt8.reduceToNat]
    omega
  · rintro (rfl | rfl) <;> decide

/-- The scan stops at a blank exactly when there is one that it does not skip. -/
theorem blankAt_skipSeparators (s : Source) (o : Nat) :
    s.blankAt (skipSeparators s o) = true ↔
      ∃ b ∈ (s.bytes.drop o).takeWhile isBlankByte, b = 0x0B ∨ b = 0x0C := by
  rw [Source.blankAt, skipSeparators, ← List.getElem?_drop,
    any_getElem?_takeWhile_iff fun _ => isBlankByte_of_isSeparator]
  constructor
  · rintro ⟨b, hb, hstops⟩
    exact ⟨b, hb, (isSeparator_eq_false_iff (List.mem_takeWhile_imp hb)).mp hstops⟩
  · rintro ⟨b, hb, hvalue⟩
    exact ⟨b, hb, (isSeparator_eq_false_iff (List.mem_takeWhile_imp hb)).mpr hvalue⟩

/-! ### The new text -/

/-- What the fix of an import that begins with its attribute leaves: the rest of the content from where
the scan for separators stopped.  It begins with a blank exactly when a vertical tab or a form feed stands
among the blanks after the attribute. -/
def DropsBlanks (s : Source) (n : Node) (d : Diagnostic) : Prop :=
  ∀ a content, n.descendants.find? (isReexport s) = some a → s.contentSpan n = .ok content →
    a.start = content.start → skipSeparators s a.stop < content.stop →
    ∃ fix, d.fix = some fix ∧ fix.replacement = s.text ⟨skipSeparators s a.stop, content.stop⟩ ∧
      (beginsBlank fix.bytes = true ↔
        ∃ b ∈ (s.bytes.drop a.stop).takeWhile isBlankByte, b = 0x0B ∨ b = 0x0C)

theorem splice_at_start {s : Source} {content : Span} {start stop : Nat}
    (hstart : start = content.start) :
    splice s content ⟨start, stop⟩ "" = s.text ⟨stop, content.stop⟩ := by
  have hempty : s.slice ⟨content.start, start⟩ = [] := by
    rw [hstart, Source.slice, Nat.sub_self, List.take_zero]
  rw [splice, hempty, Source.text]
  rfl

theorem Reports.drops_blanks {severity : Severity} {c : Context} {n : Node} {d : Diagnostic}
    (hd : Reports severity c n d) : DropsBlanks c.source n d := by
  intro a content ha hcontent hstart hafter
  cases hd with
  | @reexported path content' a' hpath hcontent' ha' =>
    obtain rfl := Except.ok.inj (hcontent.symm.trans hcontent')
    obtain rfl := Option.some.inj (ha.symm.trans ha')
    refine ⟨_, rfl, splice_at_start hstart, ?_⟩
    rw [Fix.bytes, splice_at_start hstart, Source.text, Utf8.encodeString, Utf8.decodeString,
      String.toList_ofList, beginsBlank_encode_decode, Source.beginsBlank_slice hafter]
    exact blankAt_skipSeparators c.source a.stop
  | visible hpath hcontent' hnone hm =>
    -- reported for its modifier, because there is no attribute
    have hreexport := List.find?_some ha
    rw [hnone a (List.mem_of_find?_eq_some ha)] at hreexport
    cases hreexport

/-- **Dropping an attribute drops the blanks after it, up to a vertical tab or form feed.**  For all
sources, of any bytes, and all well-formed trees: the fix of each import that is reported for an attribute
at the beginning of its content is the rest of the content after the attribute and its separators, and
that rest begins with a blank exactly when one of the blanks after the attribute is no separator. -/
theorem lint_exported_fix_blanks (settings : Option Settings) (c : Context)
    (hformed : c.root.WellFormed c.source) :
    ∃ found, ((definition.create settings).lint c).value = .ok found ∧
      List.Forall₂ (DropsBlanks c.source) (reported c.source c.root) found := by
  apply lint_of_reports settings hformed
  intro n _ d hd
  exact hd.drops_blanks

/-- An attribute with a tab after it, and one with a form feed between two spaces. -/
def pageContext : Context where
  file := "Sources/Page.swift"
  source := Source.ofString "@_exported\timport A\n@_exported \x0c import B\n"
  parse := ⟨⟨"source_file", 0, 42, true,
    [⟨"import_declaration", 0, 19, true,
        [⟨"modifiers", 0, 10, true, [⟨"attribute", 0, 10, true, []⟩]⟩,
          ⟨"import", 11, 17, false, []⟩, ⟨"identifier", 18, 19, true, []⟩]⟩,
      ⟨"import_declaration", 20, 41, true,
        [⟨"modifiers", 20, 30, true, [⟨"attribute", 20, 30, true, []⟩]⟩,
          ⟨"import", 33, 39, false, []⟩, ⟨"identifier", 40, 41, true, []⟩]⟩]⟩, false⟩
  settings := {}

theorem lint_exported_fix_blanks_sample :
    pageContext.root.WellFormed pageContext.source ∧
      ∃ found, ((definition.create none).lint pageContext).value = .ok found ∧
        List.Forall₂ (DropsBlanks pageContext.source)
          (reported pageContext.source pageContext.root) found :=
  ⟨by decide, lint_exported_fix_blanks none pageContext (by decide)⟩

/-- The fix of an import that begins with its attribute does not begin with a blank. -/
def DropsAllBlanks (s : Source) (n : Node) (d : Diagnostic) : Prop :=
  ∀ a content, n.descendants.find? (isReexport s) = some a → s.contentSpan n = .ok content →
    a.start = content.start → skipSeparators s a.stop < content.stop →
    ∃ fix, d.fix = some fix ∧ beginsBlank fix.bytes = false

/-- Not all blanks are always dropped: the fix of the second import begins with the form feed. -/
theorem exported_fix_keeps_blanks :
    (¬ ∀ c : Context, c.root.WellFormed c.source → c.root.LeafComments →
        ∃ found, ((definition.create none).lint c).value = .ok found ∧
          List.Forall₂ (DropsAllBlanks c.source) (reported c.source c.root) found) ∧
      ((definition.create none).lint pageContext).value.map
          (fun found => found.map fun d => d.fix.map Fix.replacement) =
        .ok [some "import A", some "\x0c import B"] := by
  have htexts : ((definition.create none).lint pageContext).value.map
      (fun found => found.map fun d => d.fix.map Fix.replacement) =
        .ok [some "import A", some "\x0c import B"] := by
    decide +kernel
  refine ⟨fun h => ?_, htexts⟩
  obtain ⟨found, hvalue, hfound⟩ := h pageContext (by decide) (by decide)
  have hreported : reported pageContext.source pageContext.root = pageContext.root.children := rfl
  rw [hreported] at hfound
  rw [hvalue] at htexts
  obtain ⟨first, others, rfl, -, hothers⟩ := List.map_eq_cons_iff.mp (Except.ok.inj htexts)
  obtain ⟨second, rest, rfl, hsecond, -⟩ := List.map_eq_cons_iff.mp hothers
  have hdrops : DropsAllBlanks pageContext.source _ second := hfound.get (i := 1) (by decide) (by simp)
  obtain ⟨fix, hfix, hvisible⟩ := hdrops ⟨"attribute", 20, 30, true, []⟩ ⟨20, 41⟩ rfl
    (by decide +kernel) rfl (by decide)
  rw [hfix, Option.map_some, Option.some.injEq] at hsecond
  rw [Fix.bytes, hsecond] at hvisible
  exact absurd hvisible (by decide)

end PublicImport

end TreeLint
