/-
  TreeLint/Proofs/LintCommand.lean
  ================================
  **What the command that lints shows, and how it ends.**  The command lints its files one after the
  other with one linter, keeps what is serious enough, reports that, and ends with an exit code.

  The built-in rule can fail but is never interrupted (`interrupted_eq_false`), so linting a file that can
  be read always returns, and the findings of several files are the findings of each of them on its own,
  put together (`lintFiles_value`).  Without a configuration a profile changes nothing, so the linter
  depends on the rules that are asked for and on nothing else (`requestLinter_congr`).

  An error is as serious as can be and is shown under every limit, so the exit code is the same whatever
  the limit is (`exitCode_shown`).  The main statement is `runLint_shows_and_exits`.
-/
import TreeLint.CommandLine.Run
import TreeLint.Proofs.RuleChoice
import TreeLint.Proofs.RuleFailures
import TreeLint.Proofs.Walks

namespace TreeLint

/-! ### Failures that are no interruption -/

section Ordinary

variable {reporter : Reporter} {c : Context} {cause : Failure}

theorem Reporter.ordinary_of_diagnose {remark : Remark}
    (h : reporter.diagnose c remark = .error cause) : cause.isOrdinary = true := by
  unfold Reporter.diagnose at h
  split at h
  · obtain rfl := Except.error.inj h
    rfl
  · split at h
    · cases h
    · obtain rfl := Except.error.inj h
      rfl

theorem Reporter.ordinary_of_diagnoseAll {remarks : List Remark}
    (h : (reporter.diagnoseAll c remarks).2 = some cause) : cause.isOrdinary = true := by
  induction remarks with
  | nil => cases h
  | cons remark remarks ih =>
    simp only [Reporter.diagnoseAll] at h
    split at h
    · next failure hfailure =>
      obtain rfl := Option.some.inj h
      exact Reporter.ordinary_of_diagnose hfailure
    · exact ih h

/-- An inspector whose handlers are not interrupted is not interrupted. -/
theorem Inspector.ordinary_of_check {inspector : Inspector} {info : RuleInfo} {settings : Settings}
    (hhandlers : ∀ kind handler n state cause, inspector.handler? c kind = some handler →
      (handler n state).answer = .error cause → cause.isOrdinary = true)
    (h : (inspector.check info settings c).value = .error cause) : cause.isOrdinary = true := by
  simp only [Inspector.check, Inspector.findings] at h
  split at h
  · next reason hfailed =>
    obtain rfl := Except.error.inj h
    refine Walk.cause_of_failed (P := fun cause => cause.isOrdinary = true) ?_ _ _ hfailed
    -- a visit fails because a remark could not be made, or because its handler fails
    intro n state cause hanswer
    unfold Inspector.visitor Visitor.dispatch at hanswer
    split at hanswer
    · split at hanswer
      · next handler hhandler =>
        obtain ⟨reply, hreply, rfl⟩ := Option.map_eq_some_iff.mp hhandler
        simp only [Inspector.handle] at hanswer
        split at hanswer
        · next failure hfailure =>
          obtain rfl := Except.error.inj hanswer
          exact Reporter.ordinary_of_diagnoseAll hfailure
        · exact hhandlers _ _ _ _ _ hreply hanswer
      · cases hanswer
    · cases hanswer
  · cases h

end Ordinary

theorem PublicImport.interrupted_eq_false {rule : Rule} (h : rule.definition = PublicImport.definition)
    (c : Context) : Linter.interrupted c rule = false := by
  rw [Bool.eq_false_iff]
  intro hinterrupted
  obtain ⟨cause, hcause, hordinary⟩ := Linter.interrupted_iff.mp hinterrupted
  rw [Linter.outcome, Rule.lint, h] at hcause
  have hnot : cause.isOrdinary = true := by
    refine Inspector.ordinary_of_check ?_ hcause
    intro kind handler n state cause hhandler hanswer
    simp only [PublicImport.inspector] at hhandler
    split at hhandler
    · obtain rfl := Option.some.inj hhandler
      simp only [PublicImport.inspect] at hanswer
      split at hanswer
      · split at hanswer
        · obtain rfl := Except.error.inj hanswer
          rfl
        · cases hanswer
      · cases hanswer
    · cases hhandler
  rw [hnot] at hordinary
  cases hordinary

namespace CommandLine

open Console Linter

/-! ### The linter of a request -/

/-- Rules are asked for, and none of them is known. -/
def NoneKnown (rules : List String) : Prop :=
  rules ≠ [] ∧ ∀ i ∈ rules, Registry.default.value.contains i = false

instance (rules : List String) : Decidable (NoneKnown rules) :=
  inferInstanceAs (Decidable (_ ∧ _))

/-- Without a configuration every profile is one that does not exist. -/
theorem build_without_configuration (registry : Registry) (profile : Option String)
    (only : Option (List String)) :
    (build {} registry profile only).value = (build {} registry none only).value := by
  cases profile with
  | none => rfl
  | some name =>
    apply congrArg Linter.mk
    rw [chooseRules_value, chooseRules_value]
    exact List.filterMap_congr fun i _ => chooseRule_unknown rfl i

theorem requestLinter_congr {request request' : LintRequest} (h : request'.rules = request.rules) :
    (requestLinter request').value = (requestLinter request).value := by
  simp only [requestLinter, Logged.value_bind, h]
  rw [build_without_configuration, build_without_configuration _ request.profile]

section Request

variable {request : LintRequest}

theorem calm_requestLinter (c : Context) :
    ∀ rule ∈ (requestLinter request).value.rules, interrupted c rule = false := by
  intro rule hrule
  have hmem := Registry.mem_of_get? (mem_rules_iff.mp hrule).1
  exact PublicImport.interrupted_eq_false (List.mem_singleton.mp hmem) c

/-- A known identifier has its rule if all rules are asked for, or if it is among those that are. -/
theorem exists_requested_rule_iff {i : String} :
    (∃ rule ∈ (requestLinter request).value.rules, rule.identifier = i) ↔
      Registry.default.value.contains i = true ∧ (request.rules = [] ∨ i ∈ request.rules) := by
  have hon : (Configuration.settingsFor {} i request.profile).value.enabled = true := by
    cases request.profile with
    | none => rfl
    | some name => rfl
  refine exists_rule_iff.trans ?_
  by_cases hall : request.rules = []
  · simp [hall, hon]
  · simp [hall, hon]

theorem rules_requestLinter_eq_nil_iff :
    (requestLinter request).value.rules = [] ↔ NoneKnown request.rules := by
  constructor
  · intro hnil
    have hnone : ∀ i, Registry.default.value.contains i = true →
        ¬(request.rules = [] ∨ i ∈ request.rules) := by
      intro i hknown hasked
      obtain ⟨rule, hrule, -⟩ := exists_requested_rule_iff.mpr ⟨hknown, hasked⟩
      rw [hnil] at hrule
      cases hrule
    constructor
    · intro hall
      exact hnone PublicImport.definition.identifier rfl (Or.inl hall)
    · intro i hi
      rw [Bool.eq_false_iff]
      intro hknown
      exact hnone i hknown (Or.inr hi)
  · rintro ⟨hasked, hunknown⟩
    rw [List.eq_nil_iff_forall_not_mem]
    intro rule hrule
    obtain ⟨hknown, hall | hi⟩ := exists_requested_rule_iff.mp ⟨rule, hrule, rfl⟩
    · exact hasked hall
    · rw [hunknown _ hi] at hknown
      cases hknown

end Request

/-! ### Files -/

/-- What linting the file that a name leads to finds, on its own. -/
def FoundIn (linter : Linter) (lookup : String → Lookup) (file : String)
    (found : List Diagnostic) : Prop :=
  (linter.lintLookup (Path.normalize file) (lookup (Path.normalize file))).value = .ok found

section Files

variable {lookup : String → Lookup} {files : List String} {linter : Linter}

theorem foundIn_of_document {file : String} {d : Document}
    (hcalm : ∀ c, ∀ rule ∈ linter.rules, interrupted c rule = false)
    (hd : lookup (Path.normalize file) = .document d) :
    FoundIn linter lookup file
      (linter.rules.flatMap (contribution ⟨Path.normalize file, d.source, d.parse, {}⟩)) := by
  have hlint := lint_of_calm (hcalm ⟨Path.normalize file, d.source, d.parse, {}⟩)
  rw [FoundIn, hd]
  exact congrArg (fun outcome => outcome.value.mapError PathFailure.rule) hlint

theorem exists_foundIn (hcalm : ∀ c, ∀ rule ∈ linter.rules, interrupted c rule = false)
    (hfiles : ∀ file ∈ files, ∃ d, lookup (Path.normalize file) = .document d) :
    ∃ perFile, List.Forall₂ (FoundIn linter lookup) files perFile := by
  induction files with
  | nil => exact ⟨[], .nil⟩
  | cons file files ih =>
    obtain ⟨d, hd⟩ := hfiles file List.mem_cons_self
    obtain ⟨perFile, hall⟩ := ih fun other hother => hfiles other (List.mem_cons_of_mem file hother)
    exact ⟨_ :: perFile, .cons (foundIn_of_document hcalm hd) hall⟩

/-- The findings of several files are those of each file, one after the other. -/
theorem lintFiles_value {perFile : List (List Diagnostic)}
    (h : List.Forall₂ (FoundIn linter lookup) files perFile) :
    (lintFiles linter lookup files).value = .ok perFile.flatten := by
  induction h with
  | nil => rfl
  | cons hfound _ ih =>
    unfold FoundIn at hfound
    simp only [lintFiles, Logged.value_bind, hfound, ih, Logged.value_pure]
    rfl

theorem checkFiles_eq_none
    (hfiles : ∀ file ∈ files, ∃ d, lookup (Path.normalize file) = .document d) :
    checkFiles lookup files = none := by
  induction files with
  | nil => rfl
  | cons file files ih =>
    obtain ⟨d, hd⟩ := hfiles file List.mem_cons_self
    rw [checkFiles, hd]
    exact ih fun other hother => hfiles other (List.mem_cons_of_mem file hother)

end Files

/-! ### Exit codes -/

theorem exitCode_eq (ds : List Diagnostic) :
    exitCode ds = if ∃ d ∈ ds, d.severity = .error then 1 else 0 := by
  unfold exitCode
  by_cases herror : ∃ d ∈ ds, d.severity = .error
  · rw [if_pos herror, if_pos (by simpa using herror)]
  · rw [if_neg herror, if_neg (by simpa using herror)]

/-- What is left out of a report is no error. -/
theorem exitCode_shown (minSeverity : Severity) (ds : List Diagnostic) :
    exitCode (shown minSeverity ds) = exitCode ds := by
  have hany : (shown minSeverity ds).any (·.severity == .error) = ds.any (·.severity == .error) := by
    rw [shown, List.any_filter]
    congr 1
    funext d
    cases d.severity with
    | info => simp
    | warning => simp
    | error => cases minSeverity <;> rfl
  rw [exitCode, exitCode, hany]

/-- The console has a width, and the blocks can be drawn on it. -/
def Printable (columns : Option String) (blocks : List Block) : Prop :=
  ∃ width, consoleWidth columns = .ok width ∧ (drawAll width blocks).error = none

theorem finish_of_printable {columns : Option String} {blocks : List Block}
    (h : Printable columns blocks) (code : Nat) (errors : String) :
    ∃ output, finish columns code blocks errors = .exited code output errors := by
  obtain ⟨width, hwidth, hdrawn⟩ := h
  refine ⟨String.ofList (drawAll width blocks).text, ?_⟩
  simp only [finish, hwidth, hdrawn]

/-! ### Runs -/

/-- The sentence that is printed when there is no rule to run. -/
def noRulesText : String := "No rules are enabled in the current configuration.\n"

section Runs

variable {lookup : String → Lookup} {request : LintRequest} (columns : Option String) (debug : Bool)

theorem runLint_of_noneKnown
    (hreadable : ∀ file ∈ request.files, ∃ d, lookup (Path.normalize file) = .document d)
    (hrules : NoneKnown request.rules) :
    ∃ errors, runLint lookup columns debug request = .exited 1 noRulesText errors := by
  refine ⟨recordLines debug (requestLinter request).records, ?_⟩
  simp only [runLint, checkFiles_eq_none hreadable, List.isEmpty_iff,
    rules_requestLinter_eq_nil_iff.mpr hrules, if_true]
  rfl

theorem runLint_of_known {perFile : List (List Diagnostic)}
    (hreadable : ∀ file ∈ request.files, ∃ d, lookup (Path.normalize file) = .document d)
    (hrules : ¬NoneKnown request.rules)
    (hfound : List.Forall₂ (FoundIn (requestLinter request).value lookup) request.files perFile) :
    ∃ errors, runLint lookup columns debug request =
      finish columns (exitCode perFile.flatten)
        (Report.diagnostics request.verbose (shown request.minSeverity perFile.flatten)) errors := by
  have hfindings : (requestFindings lookup request (requestLinter request).value).value =
      .ok perFile.flatten := lintFiles_value hfound
  refine ⟨recordLines debug ((requestLinter request).records ++
    (requestFindings lookup request (requestLinter request).value).records), ?_⟩
  rw [← exitCode_shown request.minSeverity]
  simp only [runLint, checkFiles_eq_none hreadable, List.isEmpty_iff, rules_requestLinter_eq_nil_iff,
    hrules, if_false, hfindings]

end Runs

/-- The diagnostics that a request should show: those of its files on their own, file after file, as far
as they are serious enough. -/
def ShownFor (lookup : String → Lookup) (request : LintRequest) (ds : List Diagnostic) : Prop :=
  ∃ perFile, List.Forall₂ (FoundIn (requestLinter request).value lookup) request.files perFile ∧
    ds = perFile.flatten.filter fun d => decide (request.minSeverity ≤ d.severity)

/-- **What the command shows and how it ends**, for files that can be read.  There is one exit code for
the files and the rules that are asked for, whatever the profile, the least severity, the amount of
detail, the console and the log level are:

1. It is 1 if no rule is enabled or an error is shown, and 0 otherwise.
2. No rule is enabled exactly when rules are asked for of which none is known; then nothing is shown.
3. Otherwise the command reports the diagnostics that it should show.
4. If they can be printed, the run ends with that exit code. -/
theorem runLint_shows_and_exits (lookup : String → Lookup) (files rules : List String)
    (hreadable : ∀ file ∈ files, ∃ d, lookup (Path.normalize file) = .document d) :
    ∃ code, ∀ profile minSeverity verbose columns debug,
      let request : LintRequest := ⟨profile, rules, minSeverity, verbose, files⟩
      let result := runLint lookup columns debug request
      ∃ ds, ShownFor lookup request ds ∧
        (code = if NoneKnown rules ∨ ∃ d ∈ ds, d.severity = .error then 1 else 0) ∧
        ((requestLinter request).value.rules = [] ↔ NoneKnown rules) ∧
        (NoneKnown rules → ∃ errors, result = .exited code noRulesText errors) ∧
        (¬NoneKnown rules → ∃ errors,
          result = finish columns code (Report.diagnostics verbose ds) errors) ∧
        (Printable columns (Report.diagnostics verbose ds) →
          ∃ output errors, result = .exited code output errors) := by
  -- one linter serves all requests for these rules, so the findings are the same as well
  let base : LintRequest := ⟨none, rules, .info, false, files⟩
  have hcalm : ∀ c, ∀ rule ∈ (requestLinter base).value.rules, interrupted c rule = false :=
    calm_requestLinter
  obtain ⟨perFile, hbase⟩ := exists_foundIn hcalm hreadable
  have hfound : ∀ request : LintRequest, request.rules = rules →
      List.Forall₂ (FoundIn (requestLinter request).value lookup) files perFile := by
    intro request hrequest
    have hlinter : (requestLinter request).value = (requestLinter base).value :=
      requestLinter_congr hrequest
    rw [hlinter]
    exact hbase
  by_cases hrules : NoneKnown rules
  · refine ⟨1, ?_⟩
    intro profile minSeverity verbose columns debug request result
    have hresult : ∃ errors, result = .exited 1 noRulesText errors :=
      runLint_of_noneKnown columns debug hreadable hrules
    refine ⟨_, ⟨perFile, hfound request rfl, rfl⟩, ?_, rules_requestLinter_eq_nil_iff,
      fun _ => hresult, fun hknown => absurd hrules hknown, fun _ => ⟨_, hresult⟩⟩
    rw [if_pos (Or.inl hrules)]
  · refine ⟨exitCode perFile.flatten, ?_⟩
    intro profile minSeverity verbose columns debug request result
    obtain ⟨errors, hresult⟩ := runLint_of_known columns debug hreadable hrules (hfound request rfl)
    refine ⟨_, ⟨perFile, hfound request rfl, rfl⟩, ?_, rules_requestLinter_eq_nil_iff,
      fun hnone => absurd hnone hrules, fun _ => ⟨errors, hresult⟩, ?_⟩
    · rw [← exitCode_shown minSeverity, exitCode_eq]
      simp only [hrules, false_or]
      rfl
    · intro hprint
      obtain ⟨output, houtput⟩ := finish_of_printable hprint (exitCode perFile.flatten) errors
      exact ⟨output, errors, hresult.trans houtput⟩

/-- The request and the files determine what should be shown. -/
theorem ShownFor.eq_shown {lookup : String → Lookup} {request : LintRequest} {ds : List Diagnostic}
    (h : ShownFor lookup request ds) :
    ds = shown request.minSeverity (request.files.flatMap fun file =>
      ((requestLinter request).value.lintLookup (Path.normalize file)
        (lookup (Path.normalize file))).value.toOption.getD []) := by
  obtain ⟨perFile, hperFile, rfl⟩ := h
  rw [shown]
  congr 1
  generalize request.files = files at hperFile
  induction hperFile with
  | nil => rfl
  | cons hfound _ ih =>
    unfold FoundIn at hfound
    rw [List.flatten_cons, List.flatMap_cons, hfound, ih]
    rfl

/-- A file that makes an import public, and other files that import nothing. -/
def leakLookup (path : String) : Lookup :=
  if path = "Leak.swift" then
    .document ⟨Source.ofString "public import A\n", ⟨⟨"source_file", 0, 16, true,
      [⟨"import_declaration", 0, 15, true,
        [⟨"modifiers", 0, 6, true, [⟨"visibility_modifier", 0, 6, true, []⟩]⟩,
          ⟨"import", 7, 13, false, []⟩, ⟨"identifier", 14, 15, true, []⟩]⟩]⟩, false⟩⟩
  else .document ⟨Source.ofString "// nothing\n", ⟨⟨"source_file", 0, 11, true,
    [⟨"comment", 0, 10, true, []⟩]⟩, false⟩⟩

theorem readable_leakLookup (path : String) : ∃ d, leakLookup path = .document d := by
  unfold leakLookup
  split
  · exact ⟨_, rfl⟩
  · exact ⟨_, rfl⟩

/-- A clean file, a file that is named twice and leaks, and a request for a rule that nobody knows. -/
theorem runLint_shows_and_exits_sample :
    (∃ output errors, runLint leakLookup none false
        ⟨some "ci", [], .warning, true, ["Clean.swift"]⟩ = .exited 0 output errors) ∧
      (∃ output errors, runLint leakLookup (some "4") true
        ⟨none, ["library-design.public-import"], .error, false,
          ["./Leak.swift", "Clean.swift", "Leak.swift"]⟩ = .exited 1 output errors) ∧
      (∃ errors, runLint leakLookup none false
        ⟨none, ["general.missing"], .info, false, ["Leak.swift"]⟩ =
          .exited 1 noRulesText errors) := by
  have hreadable : ∀ files : List String, ∀ file ∈ files,
      ∃ d, leakLookup (Path.normalize file) = .document d := fun _ _ _ => readable_leakLookup _
  refine ⟨?_, ?_, ?_⟩
  · obtain ⟨code, hcode⟩ := runLint_shows_and_exits leakLookup ["Clean.swift"] [] (hreadable _)
    obtain ⟨ds, hshown, hvalue, -, -, -, hexit⟩ := hcode (some "ci") .warning true none false
    have hds := hshown.eq_shown
    have hzero : code = 0 := by
      rw [hvalue, hds]
      decide +kernel
    rw [hzero] at hexit
    apply hexit
    refine ⟨usualWidth, rfl, ?_⟩
    rw [hds]
    decide +kernel
  · obtain ⟨code, hcode⟩ := runLint_shows_and_exits leakLookup
      ["./Leak.swift", "Clean.swift", "Leak.swift"] ["library-design.public-import"] (hreadable _)
    obtain ⟨ds, hshown, hvalue, -, -, -, hexit⟩ := hcode none .error false (some "4") true
    have hds := hshown.eq_shown
    have hone : code = 1 := by
      rw [hvalue, hds]
      decide +kernel
    rw [hone] at hexit
    apply hexit
    refine ⟨4, by decide +kernel, ?_⟩
    rw [hds]
    decide +kernel
  · obtain ⟨code, hcode⟩ := runLint_shows_and_exits leakLookup ["Leak.swift"] ["general.missing"]
      (hreadable _)
    obtain ⟨ds, -, hvalue, -, hnone, -⟩ := hcode none .info false none false
    have hunknown : NoneKnown ["general.missing"] := by decide +kernel
    rw [if_pos (Or.inl hunknown)] at hvalue
    rw [hvalue] at hnone
    exact hnone hunknown

end CommandLine

end TreeLint
