/-
  TreeLint/Proofs/Attribution.lean
  ================================
  **Whose finding it is, and how serious.**  An inspector makes remarks and never a diagnostic, so every
  diagnostic of its walk has been stamped with the rule's identifier and severity and the file's name
  (`walk_stamped`).  This is kept by each visit, hence by walks of any length and with any ending.

  The severity comes down through layers, each of which may leave it open: the profile's entry for the
  rule, the base entry, the definition's default (`severityOf`).  Settings in force and a rule's own
  resolution together come to the same (`resolve_settingsFor`).

  The main statement follows the diagnostics of a whole linter back to their rules
  (`lint_attributes_findings`).
-/
import TreeLint.Proofs.RuleChoice
import TreeLint.Proofs.RuleFailures
import TreeLint.Proofs.Walks

namespace TreeLint

open Data

/-! ### Stamps -/

/-- A diagnostic in the name of a reporter and about the file of a context. -/
structure Reporter.Stamped (reporter : Reporter) (c : Context) (d : Diagnostic) : Prop where
  rule : d.rule = reporter.identifier
  severity : d.severity = reporter.severity
  file : d.file = c.file

section Stamps

variable {reporter : Reporter} {c : Context} {d : Diagnostic}

theorem Reporter.stamped_of_stamp {remark : Remark} {location : Location}
    (h : reporter.stamp c remark location = .value d) : reporter.Stamped c d := by
  unfold Reporter.stamp at h
  obtain ⟨withRule, message, hrule, -, rfl⟩ := Reading.seq_eq_value_iff.mp h
  obtain ⟨name, hname, rfl⟩ := Reading.map_eq_value_iff.mp hrule
  have hread := readName_text_eq_value_iff.mp (Reading.under_eq_value_iff.mp hname)
  exact ⟨hread.2.symm, rfl, rfl⟩

theorem Reporter.stamped_of_diagnose {remark : Remark} (h : reporter.diagnose c remark = .ok d) :
    reporter.Stamped c d := by
  unfold Reporter.diagnose at h
  split at h
  · cases h
  · next location hlocation =>
    split at h
    · next diagnostic hstamp =>
      obtain rfl := Except.ok.inj h
      exact Reporter.stamped_of_stamp hstamp
    · cases h

theorem Reporter.stamped_of_diagnoseAll (remarks : List Remark) :
    ∀ d ∈ (reporter.diagnoseAll c remarks).1, reporter.Stamped c d := by
  induction remarks with
  | nil =>
    intro d hd
    cases hd
  | cons remark remarks ih =>
    intro d hd
    simp only [Reporter.diagnoseAll] at hd
    split at hd
    · cases hd
    · next first hfirst =>
      rcases List.mem_cons.mp hd with rfl | hd
      · exact Reporter.stamped_of_diagnose hfirst
      · exact ih d hd

/-- A visit adds stamped diagnostics only. -/
theorem Inspector.visit_stamped (inspector : Inspector) (n : Node) (state : inspector.Progress)
    (h : ∀ d ∈ state.2, reporter.Stamped c d) :
    ∀ d ∈ (inspector.visitor reporter c n state).state.2, reporter.Stamped c d := by
  unfold Inspector.visitor Visitor.dispatch
  split
  · split
    · next handler hhandler =>
      obtain ⟨reply, -, rfl⟩ := Option.map_eq_some_iff.mp hhandler
      intro d hd
      rcases List.mem_append.mp hd with hd | hd
      · exact h d hd
      · exact Reporter.stamped_of_diagnoseAll _ d hd
    · exact h
  · exact h

theorem Inspector.walk_stamped (inspector : Inspector) :
    ∀ d ∈ (inspector.walk reporter c).state.2, reporter.Stamped c d := by
  apply Walk.run_keeps inspector.visit_stamped
  intro d hd
  cases hd

theorem Inspector.check_stamped {inspector : Inspector} {info : RuleInfo} {settings : Settings}
    {found : List Diagnostic} (h : (inspector.check info settings c).value = .ok found) :
    ∀ d ∈ found, Reporter.Stamped
      ⟨info.identifier, Severity.resolve info.defaultSeverity settings.severity⟩ c d := by
  simp only [Inspector.check, Inspector.findings] at h
  split at h
  · cases h
  · obtain rfl := Except.ok.inj h
    exact inspector.walk_stamped

end Stamps

/-! ### Layers of severity -/

section Layers

variable (configuration : Configuration) (profile : Option String)

/-- What a profile says of the severity of a rule: nothing if there is no such profile, if it has no entry
for the rule, or if the entry leaves the severity open. -/
def Configuration.profileSeverity (i : String) : Option Severity := do
  let name ← profile
  let overlay ← Entries.get? name configuration.profiles
  let settings ← Entries.get? i overlay.rules
  settings.severity

/-- What the base entry of a rule says of its severity. -/
def Configuration.baseSeverity (i : String) : Option Severity := do
  let settings ← Entries.get? i configuration.rules
  settings.severity

/-- The severity of a rule: the profile's word, else the base entry's, else the default. -/
def Configuration.severityOf (d : RuleDefinition) : Severity :=
  match configuration.profileSeverity profile d.identifier, configuration.baseSeverity d.identifier with
  | some severity, _ => severity
  | none, some severity => severity
  | none, none => d.info.defaultSeverity

variable {configuration profile}

theorem severity_settingsFor (i : String) :
    (configuration.settingsFor i profile).value.severity =
      (configuration.profileSeverity profile i).or (configuration.baseSeverity i) := by
  have hbase : (configuration.baseSettings i).severity = configuration.baseSeverity i := by
    unfold Configuration.baseSettings Configuration.baseSeverity
    cases Entries.get? i configuration.rules with
    | none => rfl
    | some settings => rfl
  unfold Configuration.settingsFor Configuration.profileSeverity
  cases profile with
  | none => exact hbase
  | some name =>
    simp only [Option.bind_eq_bind, Option.bind_some]
    cases Entries.get? name configuration.profiles with
    | none => exact hbase
    | some overlay =>
      simp only [Option.bind_some]
      cases Entries.get? i overlay.rules with
      | none => exact hbase
      | some upper => exact congrArg upper.severity.or hbase

theorem resolve_settingsFor (d : RuleDefinition) :
    Severity.resolve d.info.defaultSeverity
        (configuration.settingsFor d.identifier profile).value.severity =
      configuration.severityOf profile d := by
  rw [severity_settingsFor, Severity.resolve, Configuration.severityOf]
  cases configuration.profileSeverity profile d.identifier with
  | some severity => rfl
  | none =>
    cases configuration.baseSeverity d.identifier with
    | some severity => rfl
    | none => rfl

end Layers

namespace Linter

/-! ### A whole linter -/

/-- A definition whose check is the walk of an inspector. -/
def IsInspection (d : RuleDefinition) : Prop := ∃ inspector : Inspector, d.check = inspector.check d.info

/-- A diagnostic that can be followed back: to a registered definition that is wanted and switched on, to
the file, and to the layer that sets the severity. -/
def Attributed (configuration : Configuration) (registry : Registry) (profile : Option String)
    (only : Option (List String)) (c : Context) (d : Diagnostic) : Prop :=
  ∃ definition, registry.get? d.rule = some definition ∧ definition.identifier = d.rule ∧
    (∀ wanted ∈ only, d.rule ∈ wanted) ∧ configuration.isEnabled d.rule profile = true ∧
    d.file = c.file ∧ d.severity = configuration.severityOf profile definition

section Findings

variable {configuration : Configuration} {registry : Registry} {profile : Option String}
  {only : Option (List String)} {c : Context}

theorem attributed_of_contribution (hinspect : ∀ d ∈ registry.definitions, IsInspection d)
    {rule : Rule} (hrule : rule ∈ (build configuration registry profile only).value.rules)
    {d : Diagnostic} (hd : d ∈ contribution c rule) :
    Attributed configuration registry profile only c d := by
  obtain ⟨hget, hwanted, hsettings, hon⟩ := mem_rules_iff.mp hrule
  obtain ⟨inspector, hcheck⟩ := hinspect rule.definition (Registry.mem_of_get? hget)
  unfold contribution outcome Rule.lint at hd
  rw [hcheck] at hd
  split at hd
  · next found hfound =>
    obtain ⟨hstampRule, hstampSeverity, hstampFile⟩ := Inspector.check_stamped hfound d hd
    have hidentifier : d.rule = rule.identifier := hstampRule
    refine ⟨rule.definition, ?_, hidentifier.symm, ?_, ?_, hstampFile, ?_⟩
    · rw [hidentifier]
      exact hget
    · rw [hidentifier]
      exact hwanted
    · rw [hidentifier]
      exact hon
    · rw [hstampSeverity, hsettings]
      exact resolve_settingsFor rule.definition
  · cases hd

/-- A run takes its settings from its rules, not from the context it is given. -/
theorem lint_withSettings (linter : Linter) (c : Context) (settings : Settings) :
    linter.lint (c.withSettings settings) = linter.lint c := rfl

end Findings

/-- **Every finding of a linter is a wanted and enabled rule's, about the file, with the severity of the
first layer that sets one.**  This is for registries of inspecting rules, under every configuration,
profile and list of wanted identifiers.  The run returns its findings unless a rule is interrupted, and
the settings that the context came with make no difference. -/
theorem lint_attributes_findings (configuration : Configuration) (registry : Registry)
    (profile : Option String) (only : Option (List String)) (c : Context)
    (hinspect : ∀ d ∈ registry.definitions, IsInspection d) :
    let linter := (build configuration registry profile only).value
    (∀ found, (linter.lint c).value = .ok found →
        ∀ d ∈ found, Attributed configuration registry profile only c d) ∧
      ((∀ rule ∈ linter.rules, interrupted c rule = false) →
        ∃ found, (linter.lint c).value = .ok found) ∧
      ∀ settings, linter.lint (c.withSettings settings) = linter.lint c := by
  intro linter
  refine ⟨?_, ?_, fun settings => lint_withSettings linter c settings⟩
  · intro found hfound d hd
    rw [eq_contributions_of_lint_ok hfound] at hd
    obtain ⟨rule, hrule, hd⟩ := List.mem_flatMap.mp hd
    exact attributed_of_contribution hinspect hrule hd
  · intro hcalm
    rw [lint_of_calm hcalm]
    exact ⟨_, rfl⟩

/-- Remarks on every file, with a warning unless told otherwise. -/
def remarkingDefinition (serial : Nat) (identifier : String) : RuleDefinition :=
  let info : RuleInfo := ⟨identifier, identifier, identifier, .general, .warning, none⟩
  ⟨serial, identifier, info, [], [], (Scripted.inspector [remarkOnFile]).check info⟩

def remarkingRegistry : Registry :=
  ⟨[remarkingDefinition 1 "general.c", remarkingDefinition 2 "general.b",
    remarkingDefinition 3 "general.a"]⟩

/-- One rule's severity is set by the profile, one's by the base entry below a silent profile entry, and
one's by nobody. -/
def severityLayers : Configuration where
  rules := [("general.a", { severity := some .info }), ("general.b", { severity := some .info })]
  profiles := [("ci", ⟨[("general.a", { severity := some .error }), ("general.b", {})]⟩)]

theorem lint_attributes_findings_sample :
    let linter := (build severityLayers remarkingRegistry (some "ci") none).value
    (∀ d ∈ remarkingRegistry.definitions, IsInspection d) ∧
      ∃ found, (linter.lint wordContext).value = .ok found ∧
        (found.map fun d => (d.rule, d.severity, d.file)) =
          [("general.a", .error, "Sources/Word.swift"), ("general.b", .info, "Sources/Word.swift"),
            ("general.c", .warning, "Sources/Word.swift")] ∧
        ∀ d ∈ found, Attributed severityLayers remarkingRegistry (some "ci") none wordContext d := by
  intro linter
  have hinspect : ∀ d ∈ remarkingRegistry.definitions, IsInspection d := by
    intro d hd
    simp only [remarkingRegistry, List.mem_cons, List.not_mem_nil, or_false] at hd
    rcases hd with rfl | rfl | rfl
    · exact ⟨_, rfl⟩
    · exact ⟨_, rfl⟩
    · exact ⟨_, rfl⟩
  have hlisting : remarkingRegistry.identifiers = ["general.a", "general.b", "general.c"] := by
    rw [Registry.identifiers, show remarkingRegistry.definitions.map RuleDefinition.identifier =
      ["general.c", "general.b", "general.a"] from rfl]
    simp [List.mergeSort, List.MergeSort.Internal.splitInTwo]
  have hrules : linter.rules = [⟨remarkingDefinition 3 "general.a", { severity := some .error }⟩,
      ⟨remarkingDefinition 2 "general.b", { severity := some .info }⟩,
      ⟨remarkingDefinition 1 "general.c", {}⟩] := by
    simp only [linter, rules_eq, selected, hlisting]
    rfl
  have hattributed := lint_attributes_findings severityLayers remarkingRegistry (some "ci") none
    wordContext hinspect
  obtain ⟨found, hfound⟩ := hattributed.2.1 (by
    rw [hrules]
    decide +kernel)
  refine ⟨hinspect, found, hfound, ?_, hattributed.1 found hfound⟩
  rw [eq_contributions_of_lint_ok hfound, hrules]
  decide +kernel

end Linter

end TreeLint
