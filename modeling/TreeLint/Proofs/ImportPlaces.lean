/-
  TreeLint/Proofs/ImportPlaces.lean
  =================================
  **Where leaking imports are reported.**  Of the source nothing is asked here, not even that it is valid
  text; of the tree only that it is nested and lies in the file.  Then the rule returns its findings, and
  each of them is placed inside the import that it is about (`lint_places_findings`).

  A finding is placed at the content of its import, and so is its fix.  In a nested tree the scans that
  find the content never look beyond the file, the content lies inside the import and runs forwards, and
  positions are in the order of their offsets and count from one.  So a finding satisfies all constraints
  on records, and would be read back from its written form.
-/
import TreeLint.Proofs.ImportFixes
import TreeLint.Proofs.Normalisation
import TreeLint.Proofs.Trimming

namespace TreeLint

open Data

/-! ### Places of spans -/

/-- Where a location stops, if it is no point. -/
def Location.stopPosition? (l : Location) : Option Position :=
  match l.endLine, l.endColumn with
  | some line, some column => some ⟨line, column⟩
  | _, _ => none

theorem Location.valid_ofSpan (s : Source) (span : Span) : (Location.ofSpan s span).Valid := by
  have hstart := s.one_le_position span.start
  have hstop := s.one_le_position span.stop
  constructor
  · exact hstart.1
  · exact hstart.2
  · intro line hline
    obtain rfl := Option.some.inj hline
    exact hstop.1
  · intro column hcolumn
    obtain rfl := Option.some.inj hcolumn
    exact hstop.2

theorem Location.valid_ofOffset (s : Source) (offset : Int) : (Location.ofOffset s offset).Valid := by
  obtain ⟨hline, hcolumn⟩ := s.one_le_position offset
  refine ⟨hline, hcolumn, ?_, ?_⟩
  · intro line h
    cases h
  · intro column h
    cases h

theorem Range.valid_ofSpan (s : Source) (span : Span) : (Range.ofSpan s span).Valid :=
  ⟨Location.valid_ofOffset s span.start, Location.valid_ofOffset s span.stop⟩

namespace PublicImport

/-! ### Places of findings -/

section Reports

variable {severity : Severity} {c : Context} {n : Node} {d : Diagnostic}

/-- Both wordings are placed in the same way. -/
theorem Reports.at_content (h : Reports severity c n d) :
    ∃ content fix, c.source.contentSpan n = .ok content ∧
      d.location = Location.ofSpan c.source content ∧ d.fix = some fix ∧
      fix.range = some (Range.ofSpan c.source content) := by
  cases h with
  | @reexported path content marker hpath hcontent hmarker => exact ⟨content, _, hcontent, rfl, rfl, rfl⟩
  | @visible path content modifier hpath hcontent hnone hmodifier =>
    exact ⟨content, _, hcontent, rfl, rfl, rfl⟩

theorem Reports.valid (h : Reports severity c n d) : d.Valid := by
  obtain ⟨content, fix, -, hlocation, hfix, hrange⟩ := h.at_content
  obtain ⟨hrule, hnotes⟩ : d.rule = "library-design.public-import" ∧ d.notes = [] := by
    cases h with
    | reexported => exact ⟨rfl, rfl⟩
    | visible => exact ⟨rfl, rfl⟩
  constructor
  · rw [hrule]
    decide
  · cases d.severity <;> decide
  · rw [hlocation]
    exact Location.valid_ofSpan c.source content
  · intro f hf
    obtain rfl := Option.some.inj (hfix.symm.trans hf)
    intro r hr
    obtain rfl := Option.some.inj (hrange.symm.trans hr)
    exact Range.valid_ofSpan c.source content
  · intro note hnote
    rw [hnotes] at hnote
    cases hnote

/-- A finding that is placed inside a node, from one offset up to another, and its fix with it. -/
structure PlacedIn (s : Source) (n : Node) (d : Diagnostic) (start stop : Nat) : Prop where
  scanned : s.scan n = .ok ⟨start, stop⟩
  inside : n.start ≤ start ∧ start ≤ stop ∧ stop ≤ n.stop
  begins : d.location.position = s.position start
  ends : d.location.stopPosition? = some (s.position stop)
  ordered : s.position start ≤ s.position stop
  fix : ∃ fix range, d.fix = some fix ∧ fix.range = some range ∧
    range.start.position = s.position start ∧ range.stop.position = s.position stop
  valid : d.Valid
  accepted : Schema.validate Diagnostic (Schema.dump d) = .ok d

theorem Reports.placedIn (hformed : c.root.WellFormed c.source) (hn : n ∈ c.root.preorder)
    (h : Reports severity c n d) : ∃ start stop, PlacedIn c.source n d start stop := by
  obtain ⟨content, fix, hcontent, hlocation, hfix, hrange⟩ := h.at_content
  obtain ⟨found, hfound, hstart, hforward, hstop⟩ := Source.contentSpan_inside hformed hn
  obtain rfl := Except.ok.inj (hcontent.symm.trans hfound)
  have hsize : content.stop ≤ c.source.size :=
    hstop.trans ((hformed.toNested.bounds hn).2.trans hformed.inSource)
  refine ⟨content.start, content.stop, ?_, ⟨hstart, hforward, hstop⟩, ?_, ?_,
    c.source.position_mono hforward hsize, ?_, h.valid, ?_⟩
  · rw [Source.scan_eq_contentSpan, hcontent]
  · rw [hlocation]
    rfl
  · rw [hlocation]
    rfl
  · exact ⟨fix, _, hfix, hrange, rfl, rfl⟩
  · exact validate_eq_ok_iff.mpr (fits_diagnostic.back h.valid)

end Reports

/-- **The rule always returns, and places its findings inside their imports.**  For all sources, of any
bytes, and all well-formed trees: the scans for the contents do not leave the file, and every finding and
its fix run from one position to another that is not before it.  Both are positions of offsets in the
span of the import, and what is made of them passes all checks on records. -/
theorem lint_places_findings (settings : Option Settings) (c : Context)
    (hformed : c.root.WellFormed c.source) :
    ∃ found, ((definition.create settings).lint c).value = .ok found ∧
      List.Forall₂ (fun n d => ∃ start stop, PlacedIn c.source n d start stop)
        (reported c.source c.root) found := by
  apply lint_of_reports settings hformed
  intro n hn d hd
  exact hd.placedIn hformed hn

/-- Bytes that are no text, an import whose edges are comments and blanks, and the file ends with it. -/
def brokenContext : Context where
  file := "Sources/Broken.swift"
  source := ⟨0xFF :: 0x0A :: (Source.ofString "/**/ open import C\t//").bytes⟩
  parse := ⟨⟨"source_file", 0, 23, true,
    [⟨"import_declaration", 1, 23, true,
      [⟨"multiline_comment", 2, 6, true, []⟩,
        ⟨"modifiers", 7, 11, true, [⟨"visibility_modifier", 7, 11, true, []⟩]⟩,
        ⟨"import", 12, 18, false, []⟩, ⟨"identifier", 19, 20, true, []⟩,
        ⟨"comment", 21, 23, true, []⟩]⟩]⟩, true⟩
  settings := {}

theorem lint_places_findings_sample :
    brokenContext.root.WellFormed brokenContext.source ∧
      ¬ Text.Utf8.IsUtf8 brokenContext.source.bytes ∧
      (reported brokenContext.source brokenContext.root).map Node.span = [⟨1, 23⟩] ∧
      ∃ found, ((definition.create none).lint brokenContext).value = .ok found ∧
        List.Forall₂ (fun n d => ∃ start stop, PlacedIn brokenContext.source n d start stop)
          (reported brokenContext.source brokenContext.root) found :=
  ⟨by decide, by decide, by decide, lint_places_findings none brokenContext (by decide)⟩

end PublicImport

end TreeLint
