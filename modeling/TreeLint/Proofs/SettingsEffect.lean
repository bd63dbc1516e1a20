/-
  TreeLint/Proofs/SettingsEffect.lean
  ===================================
  **What settings change in what a rule finds.**  Two runs of an inspector are laid side by side: for two
  reporters of one name, and for two contexts of one source.  Their diagnostics differ in the stamp only,
  so they are the same once severity and file are erased (`diagnose_erased`), and so are the answers to
  the walk (`visit_erased`).  By `Walk.run_lockstep` the walks show the same nodes and end alike, and the
  same is left of their findings (`check_erased`).  This takes an inspector that looks at the source alone.

  The inspector of imports is one, hence the main statement: settings change nothing but the severity
  (`lint_settings_change_severity`).
-/
import TreeLint.Proofs.Attribution
import TreeLint.Proofs.ImportFindings

namespace TreeLint

open Data

/-- A diagnostic with nothing left of its severity and its file. -/
def Diagnostic.erased (d : Diagnostic) : Diagnostic := { d with severity := .info, file := "" }

namespace Reporter

variable {reporter reporter' : Reporter} {c c' : Context}

/-! ### Remarks -/

theorem stamp_erased (hname : reporter.identifier = reporter'.identifier) (remark : Remark)
    (location : Location) :
    (reporter.stamp c remark location).map Diagnostic.erased =
      (reporter'.stamp c' remark location).map Diagnostic.erased := by
  unfold stamp
  rw [hname]
  cases readName (.text reporter'.identifier) with
  | value name =>
    cases readText remark.message with
    | value message => rfl
    | problems ps => rfl
  | problems qs =>
    cases readText remark.message with
    | value message => rfl
    | problems ps => rfl

theorem diagnose_erased (hname : reporter.identifier = reporter'.identifier)
    (hsource : c.source = c'.source) (remark : Remark) :
    (reporter.diagnose c remark).map Diagnostic.erased =
      (reporter'.diagnose c' remark).map Diagnostic.erased := by
  unfold diagnose
  rw [hsource]
  cases Location.ofNode c'.source remark.node with
  | error cause => rfl
  | ok location =>
    have hstamp : (reporter.stamp c remark location).map Diagnostic.erased =
        (reporter'.stamp c' remark location).map Diagnostic.erased :=
      stamp_erased hname remark location
    simp only
    generalize reporter.stamp c remark location = one at hstamp
    generalize reporter'.stamp c' remark location = two at hstamp
    cases one with
    | value d =>
      cases two with
      | value d' => exact congrArg Except.ok (Reading.value.inj hstamp)
      | problems ps => cases hstamp
    | problems ps =>
      cases two with
      | value d' => cases hstamp
      | problems qs =>
        obtain rfl := Reading.problems.inj hstamp
        rfl

theorem diagnoseAll_erased (hname : reporter.identifier = reporter'.identifier)
    (hsource : c.source = c'.source) (remarks : List Remark) :
    (reporter.diagnoseAll c remarks).1.map Diagnostic.erased =
        (reporter'.diagnoseAll c' remarks).1.map Diagnostic.erased ∧
      (reporter.diagnoseAll c remarks).2 = (reporter'.diagnoseAll c' remarks).2 := by
  induction remarks with
  | nil => exact ⟨rfl, rfl⟩
  | cons remark remarks ih =>
    have hfirst := diagnose_erased hname hsource remark
    simp only [diagnoseAll]
    generalize reporter.diagnose c remark = one at hfirst
    generalize reporter'.diagnose c' remark = two at hfirst
    cases one with
    | error failure =>
      cases two with
      | error failure' =>
        obtain rfl := Except.error.inj hfirst
        exact ⟨rfl, rfl⟩
      | ok d' => cases hfirst
    | ok d =>
      cases two with
      | error failure' => cases hfirst
      | ok d' =>
        obtain ⟨hdiagnostics, hfailure⟩ := ih
        simp only [List.map_cons, Except.ok.inj hfirst, hdiagnostics, hfailure, and_self]

theorem diagnoseAll_withSettings (view : Settings) (remarks : List Remark) :
    reporter.diagnoseAll (c.withSettings view) remarks = reporter.diagnoseAll c remarks := by
  have hdiagnose : ∀ remark, reporter.diagnose (c.withSettings view) remark =
      reporter.diagnose c remark := fun _ => rfl
  induction remarks with
  | nil => rfl
  | cons remark remarks ih => simp only [diagnoseAll, hdiagnose, ih]

end Reporter

namespace Inspector

variable {inspector : Inspector} {reporter reporter' : Reporter} {c c' : Context}

/-! ### Walks -/

/-- The same own state, and diagnostics that differ in their stamps only. -/
def SameProgress (inspector : Inspector) (progress progress' : inspector.Progress) : Prop :=
  progress.1 = progress'.1 ∧ progress.2.map Diagnostic.erased = progress'.2.map Diagnostic.erased

theorem visit_erased (hname : reporter.identifier = reporter'.identifier)
    (hsource : c.source = c'.source)
    (hhandler : ∀ kind, inspector.handler? c kind = inspector.handler? c' kind) (n : Node)
    (progress progress' : inspector.Progress) (h : inspector.SameProgress progress progress') :
    (inspector.visitor reporter c n progress).answer =
        (inspector.visitor reporter' c' n progress').answer ∧
      inspector.SameProgress (inspector.visitor reporter c n progress).state
        (inspector.visitor reporter' c' n progress').state := by
  obtain ⟨state, found⟩ := progress
  obtain ⟨state', found'⟩ := progress'
  obtain ⟨hstate, hfound⟩ := h
  simp only at hstate hfound
  subst hstate
  simp only [visitor, Visitor.dispatch, hhandler]
  by_cases hnamed : n.named = true
  · rw [if_pos hnamed, if_pos hnamed]
    cases inspector.handler? c' n.kind with
    | none => exact ⟨rfl, rfl, hfound⟩
    | some handler =>
      obtain ⟨hdiagnostics, hfailure⟩ :=
        Reporter.diagnoseAll_erased hname hsource (handler n state).remarks
      simp only [Option.map_some, handle, hfailure, SameProgress, List.map_append, hfound,
        hdiagnostics, and_self]
  · rw [if_neg hnamed, if_neg hnamed]
    exact ⟨rfl, rfl, hfound⟩

theorem walk_erased (hname : reporter.identifier = reporter'.identifier)
    (hsource : c.source = c'.source) (hroot : c.root = c'.root)
    (hhandler : ∀ kind, inspector.handler? c kind = inspector.handler? c' kind) :
    (inspector.walk reporter c).visited = (inspector.walk reporter' c').visited ∧
      (inspector.walk reporter c).ending = (inspector.walk reporter' c').ending ∧
      inspector.SameProgress (inspector.walk reporter c).state
        (inspector.walk reporter' c').state := by
  unfold walk
  rw [hroot]
  exact Walk.run_lockstep (visit_erased hname hsource hhandler) [c'.root] (inspector.initial, [])
    (inspector.initial, []) ⟨rfl, rfl⟩

/-- Checks of one tree by an inspector that looks at the source alone: whatever the settings and the rest
of the context are, they find the same or fail alike, and leave the same records. -/
theorem check_erased (info : RuleInfo) (settings settings' : Settings)
    (hsource : c.source = c'.source) (hroot : c.root = c'.root)
    (hhandler : ∀ kind, inspector.handler? c kind = inspector.handler? c' kind) :
    (inspector.check info settings c).value.map (List.map Diagnostic.erased) =
        (inspector.check info settings' c').value.map (List.map Diagnostic.erased) ∧
      (inspector.check info settings c).records = (inspector.check info settings' c').records := by
  let reporter : Reporter := ⟨info.identifier, Severity.resolve info.defaultSeverity settings.severity⟩
  let reporter' : Reporter :=
    ⟨info.identifier, Severity.resolve info.defaultSeverity settings'.severity⟩
  have hname : reporter.identifier = reporter'.identifier := rfl
  obtain ⟨hvisited, hending, -, hfound⟩ := walk_erased hname hsource hroot hhandler
  constructor
  · change (inspector.findings (inspector.walk reporter c)).map _ =
      (inspector.findings (inspector.walk reporter' c')).map _
    unfold findings
    rw [← hending]
    cases (inspector.walk reporter c).ending with
    | covered => exact congrArg Except.ok hfound
    | halted => exact congrArg Except.ok hfound
    | failed cause => rfl
  · change (inspector.walk reporter c).records _ = (inspector.walk reporter' c').records _
    rw [Walk.records, Walk.records, hvisited, hending]

/-- An inspector that does not look at the settings of a view makes the same check on every view. -/
theorem check_withSettings (info : RuleInfo) (settings view : Settings)
    (hhandler : ∀ kind, inspector.handler? (c.withSettings view) kind = inspector.handler? c kind) :
    inspector.check info settings (c.withSettings view) = inspector.check info settings c := by
  have hhandle : ∀ reporter : Reporter, inspector.handle reporter (c.withSettings view) =
      inspector.handle reporter c := by
    intro reporter
    funext handler n progress
    simp only [handle, Reporter.diagnoseAll_withSettings]
  have hvisitor : ∀ reporter, inspector.visitor reporter (c.withSettings view) =
      inspector.visitor reporter c := by
    intro reporter
    simp only [visitor, hhandler, hhandle]
  simp only [check, walk, hvisitor]
  rfl

end Inspector

namespace PublicImport

/-- **Settings change nothing but the severity.**  The rule is run on one source and tree: with any
settings or none, under any file names, and on contexts that carry any settings of their own.

1. Once severity and file are erased, the findings are the same, or the failure is; the records are too.
2. Every finding has the severity that the rule's own settings set, and an error's if they set none.
3. A rule without settings finds the same as one with default settings.
4. The settings of a view make no difference. -/
theorem lint_settings_change_severity (source : Source) (parse : Parse) (file file' : String)
    (carried carried' : Settings) (settings settings' : Option Settings) :
    let c : Context := ⟨file, source, parse, carried⟩
    let c' : Context := ⟨file', source, parse, carried'⟩
    let rule := definition.create settings
    let rule' := definition.create settings'
    (rule.lint c).value.map (List.map Diagnostic.erased) =
        (rule'.lint c').value.map (List.map Diagnostic.erased) ∧
      (rule.lint c).records = (rule'.lint c').records ∧
      (∀ found, (rule.lint c).value = .ok found →
        ∀ d ∈ found, d.severity = (settings.bind Settings.severity).getD .error ∧ d.file = file) ∧
      (definition.create none).lint c = (definition.create (some {})).lint c ∧
      ∀ view, rule.lint (c.withSettings view) = rule.lint c := by
  intro c c' rule rule'
  obtain ⟨hfound, hrecords⟩ := inspector.check_erased info rule.settings rule'.settings
    (show c.source = c'.source from rfl) rfl fun _ => rfl
  refine ⟨hfound, hrecords, ?_, rfl, fun view => inspector.check_withSettings info _ view fun _ => rfl⟩
  intro found hreturned d hd
  obtain ⟨-, hseverity, hfile⟩ := Inspector.check_stamped hreturned d hd
  refine ⟨?_, hfile⟩
  rw [hseverity]
  cases settings with
  | none => rfl
  | some given => rfl

/-- A rule without settings, and one that is switched off and lowered to a warning: both report the two
imports, each with its own severity and file. -/
theorem lint_settings_change_severity_sample :
    let c : Context := { sampleContext with file := "A.swift" }
    let c' : Context := { sampleContext with file := "B.swift", settings := { enabled := false } }
    let lowered : Settings := { enabled := false, severity := some .warning }
    ∃ found found', ((definition.create none).lint c).value = .ok found ∧
      ((definition.create (some lowered)).lint c').value = .ok found' ∧ found.length = 2 ∧
      found.map Diagnostic.erased = found'.map Diagnostic.erased ∧
      (∀ d ∈ found, d.severity = .error ∧ d.file = "A.swift") ∧
      ∀ d ∈ found', d.severity = .warning ∧ d.file = "B.swift" := by
  intro c c' lowered
  have hboth := lint_settings_change_severity c.source c.parse c.file c'.file c.settings c'.settings
    none (some lowered)
  have hback := lint_settings_change_severity c'.source c'.parse c'.file c.file c'.settings c.settings
    (some lowered) none
  have hlength : ((definition.create none).lint c).value.toOption.map List.length = some 2 := by
    decide +kernel
  cases hfound : ((definition.create none).lint c).value with
  | error cause =>
    rw [hfound] at hlength
    cases hlength
  | ok found =>
    rw [hfound] at hlength
    have hsame := hboth.1
    rw [show ((definition.create none).lint c).value = .ok found from hfound] at hsame
    cases hfound' : ((definition.create (some lowered)).lint c').value with
    | error cause =>
      rw [show ((definition.create (some lowered)).lint c').value = .error cause from hfound'] at hsame
      cases hsame
    | ok found' =>
      rw [show ((definition.create (some lowered)).lint c').value = .ok found' from hfound'] at hsame
      exact ⟨found, found', rfl, rfl, Option.some.inj hlength, Except.ok.inj hsame,
        hboth.2.2.1 found hfound, hback.2.2.1 found' hfound'⟩

end PublicImport

end TreeLint
