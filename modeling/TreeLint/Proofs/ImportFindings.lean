/-
  TreeLint/Proofs/ImportFindings.lean
  ===================================
  **Which imports are reported, and how.**  An import is flagged when it is a named import of a module
  with a re-exporting attribute or a leaking modifier somewhere below it.  The rule reports the outermost
  flagged imports of a tree, each by one diagnostic, in document order, and nothing else
  (`lint_reports_outermost`).

  The rule's visitor is a collector for flagged imports: it passes through what is not flagged
  (`visit_of_not_flagged`) and adds one diagnostic for what is (`visit_of_flagged`), as long as the
  content of the import can be found.  What a diagnostic says is written down in `Reports`, once for
  each of the two wordings.
-/
import TreeLint.Proofs.Walks
import TreeLint.Rules.PublicImport

namespace TreeLint.PublicImport

/-! ### What should be reported -/

/-- A named import of a module, with something below it that makes it leak. -/
def isFlagged (source : Source) (n : Node) : Bool :=
  n.named && n.kind == "import_declaration" && (modulePath source n).isSome &&
    n.descendants.any fun m => isReexport source m || isLeaking source m

/-- The flagged imports of a tree that have no flagged import above them, in document order. -/
def reported (source : Source) (root : Node) : List Node := root.outermost (isFlagged source)

/-- The diagnostic for an import: about the attribute where there is one, and about the modifier only
where there is none. -/
inductive Reports (severity : Severity) (c : Context) (n : Node) : Diagnostic → Prop
  | reexported {path : List Char} {content : Span} {marker : Node}
      (hpath : modulePath c.source n = some path)
      (hcontent : c.source.contentSpan n = .ok content)
      (hmarker : n.descendants.find? (isReexport c.source) = some marker) :
      Reports severity c n
        { rule := "library-design.public-import"
          severity := severity
          message := "@_exported import '" ++ String.ofList path
            ++ "' leaks dependency to consumers. Remove @_exported."
          file := c.file
          location := Location.ofSpan c.source content
          fix := some
            { description := "Remove @_exported attribute"
              replacement := splice c.source content
                ⟨marker.start, skipSeparators c.source marker.stop⟩ ""
              range := some (Range.ofSpan c.source content) }
          notes := [] }
  | visible {path : List Char} {content : Span} {modifier : Node}
      (hpath : modulePath c.source n = some path)
      (hcontent : c.source.contentSpan n = .ok content)
      (hnone : ∀ m ∈ n.descendants, isReexport c.source m = false)
      (hmodifier : n.descendants.find? (isLeaking c.source) = some modifier) :
      Reports severity c n
        { rule := "library-design.public-import"
          severity := severity
          message := "public import '" ++ String.ofList path
            ++ "' leaks dependency to consumers. Use internal or package import."
          file := c.file
          location := Location.ofSpan c.source content
          fix := some
            { description := "Change to internal import"
              replacement := splice c.source content ⟨modifier.start, modifier.stop⟩ "internal"
              range := some (Range.ofSpan c.source content) }
          notes := [] }

/-! ### Leaks -/

theorem findLeak_eq_none_iff (source : Source) (n : Node) :
    findLeak source n = none ↔
      (n.descendants.any fun m => isReexport source m || isLeaking source m) = false := by
  have hleaking : findLeaking source n = none ↔ ∀ m ∈ n.descendants, ¬isLeaking source m = true :=
    List.find?_eq_none
  unfold findLeak
  cases hreexport : findReexport source n with
  | some marker =>
    have hmarker : isReexport source marker = true := List.find?_some hreexport
    have hmem : marker ∈ n.descendants := List.mem_of_find?_eq_some hreexport
    have hany : (n.descendants.any fun m => isReexport source m || isLeaking source m) = true :=
      List.any_eq_true.mpr ⟨marker, hmem, by rw [hmarker]; rfl⟩
    rw [hany]
    exact ⟨fun h => (by cases h), fun h => (by cases h)⟩
  | none =>
    have hnone : ∀ m ∈ n.descendants, ¬isReexport source m = true := List.find?_eq_none.mp hreexport
    simp only [Option.map_eq_none_iff, hleaking, List.any_eq_false, Bool.or_eq_true, not_or]
    exact ⟨fun h m hm => ⟨hnone m hm, h m hm⟩, fun h m hm => (h m hm).2⟩

/-- Flagged imports are those that the rule finds a path and a leak for. -/
theorem isFlagged_iff (source : Source) (n : Node) :
    isFlagged source n = true ↔ n.named = true ∧ n.kind = "import_declaration" ∧
      ∃ path leak, modulePath source n = some path ∧ findLeak source n = some leak := by
  have hleak := findLeak_eq_none_iff source n
  simp only [isFlagged, Bool.and_eq_true, beq_iff_eq, and_assoc]
  cases hpath : modulePath source n with
  | none => simp
  | some path =>
    cases hfound : findLeak source n with
    | none => simp [hleak.mp hfound]
    | some leak =>
      have hany : (n.descendants.any fun m => isReexport source m || isLeaking source m) = true := by
        rw [← Bool.not_eq_false, ← hleak, hfound]
        exact fun h => by cases h
      simp [hany]

/-! ### One visit -/

/-- A handler whose remarks can all be made into diagnostics. -/
theorem handle_of_diagnosed {inspector : Inspector} {reporter : Reporter} {c : Context}
    {handler : Node → inspector.State → Reply inspector.State} {n : Node}
    {state next : inspector.State} {remarks : List Remark} {answer : Except Failure (Option Action)}
    {diagnostics : List Diagnostic} (hreply : handler n state = ⟨remarks, answer, next⟩)
    (hdiagnosed : reporter.diagnoseAll c remarks = (diagnostics, none)) (found : List Diagnostic) :
    inspector.handle reporter c handler n (state, found) =
      ⟨answer, (next, found ++ diagnostics)⟩ := by
  simp only [Inspector.handle, hreply, hdiagnosed]

section Visits

variable (severity : Severity) (c : Context)

/-- The rule as the author of its diagnostics. -/
def reporter : Reporter := ⟨info.identifier, severity⟩

theorem visitor_of_import {n : Node} (hnamed : n.named = true)
    (hkind : n.kind = "import_declaration") (state : inspector.Progress) :
    inspector.visitor (reporter severity) c n state =
      inspector.handle (reporter severity) c (inspect c) n state := by
  simp only [Inspector.visitor, Visitor.dispatch, hnamed, inspector, hkind, if_true,
    Option.map_some]

/-- Whatever is not flagged is passed through. -/
theorem visit_of_not_flagged (n : Node) (state : inspector.Progress)
    (hn : isFlagged c.source n = false) :
    inspector.visitor (reporter severity) c n state = ⟨.ok (some .visitChildren), state⟩ := by
  by_cases himport : n.named = true ∧ n.kind = "import_declaration"
  · -- an import without a path or without a leak
    obtain ⟨own, found⟩ := state
    have hinspect : inspect c n own = ⟨[], .ok (some .visitChildren), own⟩ := by
      unfold inspect
      split
      · next path leak hpath hleak =>
        have hflagged := (isFlagged_iff c.source n).mpr
          ⟨himport.1, himport.2, path, leak, hpath, hleak⟩
        rw [hn] at hflagged
        cases hflagged
      · rfl
    rw [visitor_of_import severity c himport.1 himport.2, handle_of_diagnosed hinspect rfl,
      List.append_nil]
  · -- a node that the rule has no handler for
    unfold Inspector.visitor Visitor.dispatch
    split
    · next hnamed =>
      have hkind : ¬n.kind = "import_declaration" := fun hkind => himport ⟨hnamed, hkind⟩
      simp only [inspector, if_neg hkind, Option.map_none]
    · rfl

/-- A remark of the rule becomes a diagnostic as soon as its node has a content. -/
theorem diagnose_of_content {n : Node} {content : Span}
    (hcontent : c.source.contentSpan n = .ok content) (message : String) (fix : Fix) :
    (reporter severity).diagnoseAll c [⟨n, .text message, some fix, []⟩] =
      ([{ rule := "library-design.public-import"
          severity := severity
          message := message
          file := c.file
          location := Location.ofSpan c.source content
          fix := some fix
          notes := [] }], none) := by
  have hlocation : Location.ofNode c.source n = .ok (Location.ofSpan c.source content) := by
    rw [Location.ofNode, hcontent]
    rfl
  simp only [Reporter.diagnoseAll, Reporter.diagnose, hlocation]
  rfl

/-- A flagged import is reported and its children are skipped. -/
theorem visit_of_flagged {n : Node} {content : Span} (hn : isFlagged c.source n = true)
    (hcontent : c.source.contentSpan n = .ok content) (own : inspector.State)
    (found : List Diagnostic) :
    ∃ d, Reports severity c n d ∧
      inspector.visitor (reporter severity) c n (own, found) =
        ⟨.ok (some .skipChildren), (own, found ++ [d])⟩ := by
  obtain ⟨hnamed, hkind, path, leak, hpath, hleak⟩ := (isFlagged_iff c.source n).mp hn
  have hinspect : inspect c n own =
      ⟨[⟨n, .text (leak.message path), some (leak.fix c.source content), []⟩],
        .ok (some .skipChildren), own⟩ := by
    simp only [inspect, hpath, hleak, hcontent]
  refine ⟨_, ?_, (visitor_of_import severity c hnamed hkind _).trans
    (handle_of_diagnosed hinspect (diagnose_of_content severity c hcontent _ _) found)⟩
  unfold findLeak at hleak
  cases hreexport : findReexport c.source n with
  | some marker =>
    rw [hreexport] at hleak
    obtain rfl := Option.some.inj hleak
    exact .reexported hpath hcontent hreexport
  | none =>
    rw [hreexport] at hleak
    obtain ⟨modifier, hmodifier, rfl⟩ := Option.map_eq_some_iff.mp hleak
    refine .visible hpath hcontent (fun m hm => ?_) hmodifier
    exact Bool.eq_false_iff.mpr (List.find?_eq_none.mp hreexport m hm)

/-! ### The whole walk -/

/-- The walk covers the tree and leaves one diagnostic for each import to report. -/
theorem walk_reports
    (hspans : ∀ n ∈ reported c.source c.root, ∃ content, c.source.contentSpan n = .ok content) :
    ∃ found, List.Forall₂ (Reports severity c) (reported c.source c.root) found ∧
      (inspector.walk (reporter severity) c).state = ((), found) ∧
      (inspector.walk (reporter severity) c).ending = .covered := by
  have hroot : [c.root].flatMap (Node.outermost (isFlagged c.source)) = reported c.source c.root :=
    List.flatMap_singleton _ _
  have hcollects := Walk.run_collects (R := Reports severity c)
    (visit_of_not_flagged severity c) [c.root] () []
  rw [hroot] at hcollects
  apply hcollects
  intro n hn found
  obtain ⟨content, hcontent⟩ := hspans n hn
  exact visit_of_flagged severity c (Node.mem_outermost hn).2 hcontent () found

end Visits

/-- The severity that a rule made with the given settings reports with. -/
def severityUnder (settings : Option Settings) : Severity :=
  (settings.bind Settings.severity).getD .error

theorem lint_eq_findings (settings : Option Settings) (c : Context) :
    ((definition.create settings).lint c).value =
      inspector.findings (inspector.walk (reporter (severityUnder settings)) c) := by
  have hreporter : (⟨info.identifier, Severity.resolve info.defaultSeverity
      (settings.getD definition.defaultSettings).severity⟩ : Reporter) =
        reporter (severityUnder settings) := by
    cases settings with
    | none => rfl
    | some settings => rfl
  rw [← hreporter]
  rfl

/-- What the rule returns, from how its walk ends. -/
theorem lint_of_walk (settings : Option Settings) (c : Context) {found : List Diagnostic}
    (hstate : (inspector.walk (reporter (severityUnder settings)) c).state = ((), found))
    (hending : (inspector.walk (reporter (severityUnder settings)) c).ending = .covered) :
    ((definition.create settings).lint c).value = .ok found := by
  rw [lint_eq_findings, Inspector.findings, hending, hstate]

/-- **The rule reports the outermost flagged imports**, one diagnostic each and in document order, under
all settings, as long as their contents can be found.  Its walk is never halted. -/
theorem lint_reports_outermost (settings : Option Settings) (c : Context)
    (hspans : ∀ n ∈ reported c.source c.root, ∃ content, c.source.contentSpan n = .ok content) :
    ∃ found, ((definition.create settings).lint c).value = .ok found ∧
      List.Forall₂ (Reports (severityUnder settings) c) (reported c.source c.root) found ∧
      (inspector.walk (reporter (severityUnder settings)) c).ending = .covered := by
  obtain ⟨found, hreports, hstate, hending⟩ := walk_reports (severityUnder settings) c hspans
  exact ⟨found, lint_of_walk settings c hstate hending, hreports, hending⟩

/-- A file with a re-exported import, a comment that is not ASCII, a public import inside an import that
has no module of its own, and an import that leaks nothing. -/
def sampleContext : Context where
  file := "Sources/Library.swift"
  source := Source.ofString "@_exported import A // é\npublic import B\nimport C\n"
  parse := ⟨⟨"source_file", 0, 51, true,
    [⟨"import_declaration", 0, 19, true,
        [⟨"modifiers", 0, 10, true, [⟨"attribute", 0, 10, true, []⟩]⟩,
          ⟨"import", 11, 17, false, []⟩, ⟨"identifier", 18, 19, true, []⟩]⟩,
      ⟨"comment", 20, 25, true, []⟩,
      ⟨"import_declaration", 26, 41, true,
        [⟨"import_declaration", 26, 41, true,
          [⟨"modifiers", 26, 32, true, [⟨"visibility_modifier", 26, 32, true, []⟩]⟩,
            ⟨"import", 33, 39, false, []⟩, ⟨"identifier", 40, 41, true, []⟩]⟩]⟩,
      ⟨"import_declaration", 42, 50, true,
        [⟨"import", 42, 48, false, []⟩, ⟨"identifier", 49, 50, true, []⟩]⟩]⟩, false⟩
  settings := {}

theorem spans_sampleContext :
    ∀ n ∈ reported sampleContext.source sampleContext.root,
      ∃ content, sampleContext.source.contentSpan n = .ok content := by
  have hreported : ∀ n ∈ reported sampleContext.source sampleContext.root,
      (sampleContext.source.contentSpan n).isOk = true := by decide
  intro n hn
  have hok := hreported n hn
  cases hcontent : sampleContext.source.contentSpan n with
  | ok content => exact ⟨content, rfl⟩
  | error cause =>
    rw [hcontent] at hok
    cases hok

theorem lint_reports_outermost_sample :
    (reported sampleContext.source sampleContext.root).map Node.span = [⟨0, 19⟩, ⟨26, 41⟩] ∧
      (∀ n ∈ reported sampleContext.source sampleContext.root,
        ∃ content, sampleContext.source.contentSpan n = .ok content) ∧
      ∃ found, ((definition.create none).lint sampleContext).value = .ok found ∧
        List.Forall₂ (Reports .error sampleContext)
          (reported sampleContext.source sampleContext.root) found ∧
        (inspector.walk (reporter .error) sampleContext).ending = .covered :=
  ⟨by decide, spans_sampleContext,
    lint_reports_outermost none sampleContext spans_sampleContext⟩

end TreeLint.PublicImport
