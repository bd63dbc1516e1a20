/-
  TreeLint/Proofs/RuleFailures.lean
  =================================
  **Rules that fail.**  Each rule of a linter comes to an outcome of its own: findings, a failure that
  concerns it alone, or an interruption.  A run is told completely by the outcomes.  As long as no rule is
  interrupted it returns what the rules found, in their order, and a failing rule leaves one record and
  nothing else (`runViews_of_calm`).  The first interruption ends the run, and the rules after it are
  neither run nor looked at (`runViews_of_interrupted`, `reached_of_interrupted`).

  The main statement puts these together for a whole linter (`lint_isolates_failures`).
-/
import Mathlib.Tactic.ByContra
import TreeLint.Linter
import TreeLint.Rules.Scripted

namespace TreeLint.Linter

/-! ### Outcomes -/

section Outcomes

variable (c : Context) (rule : Rule)

/-- What a rule comes to on its own view of a file. -/
def outcome : Logged (Except Failure (List Diagnostic)) := rule.lint (c.withSettings rule.settings)

def returns : Bool :=
  match (outcome c rule).value with
  | .ok _ => true
  | .error _ => false

/-- The rule is interrupted, which is more than a failure of its own. -/
def interrupted : Bool :=
  match (outcome c rule).value with
  | .ok _ => false
  | .error cause => !cause.isOrdinary

/-- What the rule adds to the findings: nothing unless it returns. -/
def contribution : List Diagnostic :=
  match (outcome c rule).value with
  | .ok found => found
  | .error _ => []

/-- The record that should be left about a rule that fails. -/
def failedOn : Record :=
  ⟨.error, .linter, "Rule " ++ rule.identifier ++ " failed on " ++ c.file⟩

/-- The records of a rule's turn: its own, and one of the linter's if it failed. -/
def turnRecords : List Record :=
  (outcome c rule).records ++ if returns c rule then [] else [failedOn c rule]

end Outcomes

/-- The record that should close a run with the given findings. -/
def lintedOn (c : Context) (found : List Diagnostic) : Record :=
  ⟨.info, .linter, "Linted " ++ c.file ++ ": " ++ toString found.length ++ " diagnostic(s)"⟩

variable {c : Context}

theorem interrupted_iff {rule : Rule} :
    interrupted c rule = true ↔
      ∃ cause, (outcome c rule).value = .error cause ∧ cause.isOrdinary = false := by
  unfold interrupted
  cases (outcome c rule).value with
  | ok found => simp
  | error cause => simp

/-- The walk that an inspector makes for a rule. -/
def walkFor (inspector : Inspector) (info : RuleInfo) (c : Context) (rule : Rule) :
    Walk inspector.Progress Failure :=
  inspector.walk ⟨info.identifier, Severity.resolve info.defaultSeverity rule.settings.severity⟩
    (c.withSettings rule.settings)

/-- A visitor's findings are lost when its walk fails, whatever it had found by then. -/
theorem contribution_of_failed_walk {inspector : Inspector} {info : RuleInfo} {rule : Rule}
    {cause : Failure} (hcheck : rule.definition.check = inspector.check info)
    (hfailed : (walkFor inspector info c rule).ending = .failed cause) :
    (outcome c rule).value = .error cause ∧ contribution c rule = [] := by
  have hvalue : (outcome c rule).value = .error cause := by
    rw [walkFor] at hfailed
    rw [outcome, Rule.lint, hcheck]
    simp only [Inspector.check, Inspector.findings, hfailed]
  exact ⟨hvalue, by rw [contribution, hvalue]⟩

/-! ### Runs -/

/-- One turn of a rule that is not interrupted, before the turns of the others. -/
theorem runViews_turn {rule : Rule} (hcalm : interrupted c rule = false)
    (rest : List (Rule × Context)) :
    runViews ((rule, c.withSettings rule.settings) :: rest) =
      ⟨(runViews rest).value.map (contribution c rule ++ ·),
        turnRecords c rule ++ (runViews rest).records⟩ := by
  unfold interrupted at hcalm
  unfold contribution turnRecords returns
  cases hvalue : (outcome c rule).value with
  | ok found =>
    rw [outcome] at hvalue
    simp only [runViews, hvalue, if_true, List.append_nil]
    rfl
  | error cause =>
    -- a failure of the rule alone: the linter's record follows those of the rule
    rw [hvalue] at hcalm
    have hordinary : cause.isOrdinary = true := by simpa using hcalm
    have hsame : (runViews rest).value.map (([] : List Diagnostic) ++ ·) =
        (runViews rest).value := by
      cases (runViews rest).value with
      | ok found => rfl
      | error other => rfl
    rw [outcome] at hvalue
    simp only [runViews, hvalue, hordinary, if_true, hsame, Bool.false_eq_true, if_false,
      List.append_assoc, List.singleton_append]
    rfl

/-- A run without interruptions returns what the rules contribute. -/
theorem runViews_of_calm {rules : List Rule} (hcalm : ∀ rule ∈ rules, interrupted c rule = false) :
    runViews (views ⟨rules⟩ c) =
      ⟨.ok (rules.flatMap (contribution c)), rules.flatMap (turnRecords c)⟩ := by
  induction rules with
  | nil => rfl
  | cons rule rules ih =>
    have hturn := runViews_turn (hcalm rule List.mem_cons_self) (views ⟨rules⟩ c)
    rw [ih fun r hr => hcalm r (List.mem_cons_of_mem rule hr)] at hturn
    exact hturn

/-- The first interruption ends a run. -/
theorem runViews_of_interrupted {before after : List Rule} {rule : Rule} {cause : Failure}
    (hcalm : ∀ r ∈ before, interrupted c r = false)
    (hcause : (outcome c rule).value = .error cause) (hinterrupt : cause.isOrdinary = false) :
    runViews (views ⟨before ++ rule :: after⟩ c) =
      ⟨.error cause, before.flatMap (turnRecords c) ++ (outcome c rule).records⟩ := by
  induction before with
  | nil =>
    rw [outcome] at hcause
    simp only [views, List.nil_append, List.map_cons, runViews, hcause, hinterrupt,
      Bool.false_eq_true, if_false, List.flatMap_nil]
    rfl
  | cons first before ih =>
    have hturn := runViews_turn (hcalm first List.mem_cons_self)
      (views ⟨before ++ rule :: after⟩ c)
    rw [ih fun r hr => hcalm r (List.mem_cons_of_mem first hr), ← List.append_assoc] at hturn
    exact hturn

/-- The rules after the first interruption are not run. -/
theorem reached_of_interrupted {before after : List Rule} {rule : Rule}
    (hcalm : ∀ r ∈ before, interrupted c r = false) (hrule : interrupted c rule = true) :
    reached (views ⟨before ++ rule :: after⟩ c) = views ⟨before ++ [rule]⟩ c := by
  induction before with
  | nil =>
    obtain ⟨cause, hcause, hinterrupt⟩ := interrupted_iff.mp hrule
    rw [outcome] at hcause
    simp only [views, List.nil_append, List.map_cons, List.map_nil, reached, hcause, hinterrupt,
      Bool.false_eq_true, if_false]
  | cons first before ih =>
    have hrest := ih fun r hr => hcalm r (List.mem_cons_of_mem first hr)
    have hfirst := hcalm first List.mem_cons_self
    unfold interrupted outcome at hfirst
    simp only [views] at hrest
    simp only [views, List.cons_append, List.map_cons, reached, hrest]
    split
    · rfl
    · next cause hvalue =>
      rw [hvalue] at hfirst
      have hordinary : cause.isOrdinary = true := by simpa using hfirst
      rw [hordinary, if_pos rfl]

/-! ### A whole linter -/

theorem lint_of_calm {rules : List Rule} (hcalm : ∀ rule ∈ rules, interrupted c rule = false) :
    lint ⟨rules⟩ c =
      ⟨.ok (rules.flatMap (contribution c)),
        rules.flatMap (turnRecords c) ++ [lintedOn c (rules.flatMap (contribution c))]⟩ := by
  simp only [lint, runViews_of_calm hcalm]
  rfl

theorem lint_of_interrupted {before after : List Rule} {rule : Rule} {cause : Failure}
    (hcalm : ∀ r ∈ before, interrupted c r = false)
    (hcause : (outcome c rule).value = .error cause) (hinterrupt : cause.isOrdinary = false) :
    lint ⟨before ++ rule :: after⟩ c =
      ⟨.error cause, before.flatMap (turnRecords c) ++ (outcome c rule).records⟩ := by
  simp only [lint, runViews_of_interrupted hcalm hcause hinterrupt]

/-- Some rule is interrupted, so one is the first. -/
theorem exists_first_interrupted {rules : List Rule}
    (h : ∃ rule ∈ rules, interrupted c rule = true) :
    ∃ before rule after, rules = before ++ rule :: after ∧
      (∀ r ∈ before, interrupted c r = false) ∧ interrupted c rule = true := by
  cases hfind : rules.find? (interrupted c) with
  | none =>
    obtain ⟨rule, hmem, hrule⟩ := h
    exact absurd hrule (List.find?_eq_none.mp hfind rule hmem)
  | some rule =>
    obtain ⟨hrule, before, after, hrules, hbefore⟩ := List.find?_eq_some_iff_append.mp hfind
    refine ⟨before, rule, after, hrules, fun r hr => ?_, hrule⟩
    simpa using hbefore r hr

/-- A run that returns had no interruption. -/
theorem calm_of_lint_ok {linter : Linter} {found : List Diagnostic}
    (h : (linter.lint c).value = .ok found) :
    ∀ rule ∈ linter.rules, interrupted c rule = false := by
  intro rule hrule
  rw [Bool.eq_false_iff]
  intro hinterrupted
  obtain ⟨before, first, after, hrules, hcalm, hfirst⟩ :=
    exists_first_interrupted ⟨rule, hrule, hinterrupted⟩
  obtain ⟨cause, hcause, hinterrupt⟩ := interrupted_iff.mp hfirst
  rw [show linter = ⟨before ++ first :: after⟩ from congrArg Linter.mk hrules,
    lint_of_interrupted hcalm hcause hinterrupt] at h
  cases h

theorem eq_contributions_of_lint_ok {linter : Linter} {found : List Diagnostic}
    (h : (linter.lint c).value = .ok found) : found = linter.rules.flatMap (contribution c) := by
  have hcalm := lint_of_calm (calm_of_lint_ok h)
  rw [show linter.lint c = _ from hcalm] at h
  exact (Except.ok.inj h).symm

/-- Rules that do not return contribute nothing, so they can be left out. -/
theorem flatMap_contribution_filter (rules : List Rule) :
    (rules.filter (returns c)).flatMap (contribution c) = rules.flatMap (contribution c) := by
  induction rules with
  | nil => rfl
  | cons rule rules ih =>
    rw [List.flatMap_cons, ← ih]
    cases hreturns : returns c rule with
    | true => rw [List.filter_cons_of_pos hreturns, List.flatMap_cons]
    | false =>
      have hnothing : contribution c rule = [] := by
        unfold returns at hreturns
        unfold contribution
        split at hreturns
        · cases hreturns
        · rfl
      rw [List.filter_cons_of_neg (by simp [hreturns]), hnothing, List.nil_append]

theorem not_interrupted_of_returns {rule : Rule} (h : returns c rule = true) :
    interrupted c rule = false := by
  unfold returns at h
  unfold interrupted
  split at h
  · rfl
  · cases h

/-- The linter's own records, for rules that write into other channels. -/
theorem filter_turnRecords {rules : List Rule}
    (hchannels : ∀ rule ∈ rules, ∀ r ∈ (outcome c rule).records, r.channel ≠ .linter) :
    (rules.flatMap (turnRecords c)).filter (fun r => decide (r.channel = .linter)) =
      (rules.filter fun rule => !returns c rule).map (failedOn c) := by
  induction rules with
  | nil => rfl
  | cons rule rules ih =>
    have hown : (outcome c rule).records.filter (fun r => decide (r.channel = .linter)) = [] := by
      rw [List.filter_eq_nil_iff]
      intro r hr
      simpa using hchannels rule List.mem_cons_self r hr
    have hrest := ih fun r hr => hchannels r (List.mem_cons_of_mem rule hr)
    rw [List.flatMap_cons, List.filter_append, hrest, turnRecords, List.filter_append, hown,
      List.nil_append]
    cases hreturns : returns c rule with
    | true =>
      rw [List.filter_cons_of_neg (by simp [hreturns]), if_pos rfl, List.filter_nil,
        List.nil_append]
    | false =>
      rw [List.filter_cons_of_pos (by simp [hreturns]), if_neg Bool.false_ne_true, List.map_cons]
      rfl

/-- What a run comes to when no rule is interrupted: the findings of the rules that return, in order, as
if the others were not there; and a record for each failing rule, in order, before the closing one.  The
records of the rules themselves stand between those of the linter, and fall away when only the linter's
channel is read, unless a rule writes into it. -/
structure Isolated (linter : Linter) (c : Context) : Prop where
  value : (linter.lint c).value = .ok (linter.rules.flatMap (contribution c))
  without_failing : (linter.lint c).value = (lint ⟨linter.rules.filter (returns c)⟩ c).value
  records : (linter.lint c).records = linter.rules.flatMap (turnRecords c) ++
    [lintedOn c (linter.rules.flatMap (contribution c))]
  own_records :
    (∀ rule ∈ linter.rules, ∀ r ∈ (outcome c rule).records, r.channel ≠ .linter) →
      (linter.lint c).records.filter (fun r => decide (r.channel = .linter)) =
        (linter.rules.filter fun rule => !returns c rule).map (failedOn c) ++
          [lintedOn c (linter.rules.flatMap (contribution c))]

theorem isolated_of_calm {linter : Linter}
    (hcalm : ∀ rule ∈ linter.rules, interrupted c rule = false) : linter.Isolated c := by
  have hlint := lint_of_calm hcalm
  have hreturning : ∀ rule ∈ linter.rules.filter (returns c), interrupted c rule = false :=
    fun rule hrule => not_interrupted_of_returns (List.mem_filter.mp hrule).2
  refine ⟨by rw [hlint], ?_, by rw [hlint], fun hchannels => ?_⟩
  · rw [hlint, lint_of_calm hreturning, flatMap_contribution_filter]
  · rw [hlint]
    simp only [List.filter_append, filter_turnRecords hchannels]
    rfl

/-- **A rule that fails costs its own findings and nothing else; an interruption ends the run.**

1. Without interruptions the run is isolated.
2. The run fails exactly when some rule is interrupted.
3. The first interruption is the outcome of the run, and the rules after it are not run.
4. A visitor whose walk fails contributes nothing, whatever it had found before. -/
theorem lint_isolates_failures (linter : Linter) (c : Context) :
    ((∀ rule ∈ linter.rules, interrupted c rule = false) → linter.Isolated c) ∧
      ((∃ cause, (linter.lint c).value = .error cause) ↔
        ∃ rule ∈ linter.rules, interrupted c rule = true) ∧
      (∀ before rule after cause, linter.rules = before ++ rule :: after →
        (∀ r ∈ before, interrupted c r = false) → (outcome c rule).value = .error cause →
        cause.isOrdinary = false →
        linter.lint c =
            ⟨.error cause, before.flatMap (turnRecords c) ++ (outcome c rule).records⟩ ∧
          reached (linter.views c) = views ⟨before ++ [rule]⟩ c) ∧
      (∀ inspector info rule cause, rule.definition.check = Inspector.check inspector info →
        (walkFor inspector info c rule).ending = .failed cause → contribution c rule = []) := by
  obtain ⟨rules⟩ := linter
  refine ⟨isolated_of_calm, ⟨?_, ?_⟩, ?_, ?_⟩
  · -- a run that fails had an interruption, because a calm one returns
    rintro ⟨cause, hvalue⟩
    by_contra hnone
    have hcalm : ∀ rule ∈ rules, interrupted c rule = false := fun rule hrule =>
      Bool.eq_false_iff.mpr fun hinterrupted => hnone ⟨rule, hrule, hinterrupted⟩
    rw [lint_of_calm hcalm] at hvalue
    cases hvalue
  · intro hexists
    obtain ⟨before, rule, after, hrules, hcalm, hrule⟩ := exists_first_interrupted hexists
    obtain ⟨cause, hcause, hinterrupt⟩ := interrupted_iff.mp hrule
    refine ⟨cause, ?_⟩
    rw [show rules = before ++ rule :: after from hrules,
      lint_of_interrupted hcalm hcause hinterrupt]
  · intro before rule after cause hrules hcalm hcause hinterrupt
    rw [show rules = before ++ rule :: after from hrules]
    exact ⟨lint_of_interrupted hcalm hcause hinterrupt,
      reached_of_interrupted hcalm (interrupted_iff.mpr ⟨cause, hcause, hinterrupt⟩)⟩
  · intro inspector info rule cause hcheck hfailed
    exact (contribution_of_failed_walk hcheck hfailed).2

def wordContext : Context :=
  ⟨"Sources/Word.swift", Source.ofString "word",
    ⟨⟨"source_file", 0, 4, true, [⟨"identifier", 0, 4, true, []⟩]⟩, false⟩, {}⟩

def sampleRule (identifier : String) (check : RuleInfo → Check) : Rule :=
  let info : RuleInfo := ⟨identifier, identifier, identifier, .general, .warning, none⟩
  RuleDefinition.create ⟨0, identifier, info, [], [], check info⟩ none

/-- Remarks on the file and goes on into its words. -/
def remarkOnFile : String × Scripted.Script := ("source_file", ⟨none, some (.text "a file"), none, []⟩)

def remarking : Rule := sampleRule "general.remarking" (Scripted.inspector [remarkOnFile]).check

/-- Makes the same remark, and then fails at the first word. -/
def breakingInspector : Inspector :=
  Scripted.inspector [remarkOnFile, ("identifier", ⟨some [], none, none, []⟩)]

def breaking : Rule := sampleRule "general.breaking" breakingInspector.check

def stopping : Rule :=
  sampleRule "general.stopping" fun _ => Scripted.failing (.interrupted "stop" "asked to stop")

/-- A rule that fails between two others, after it found something; and an interruption in its place. -/
theorem lint_isolates_failures_sample :
    Isolated ⟨[remarking, breaking, remarking]⟩ wordContext ∧
      (lint ⟨[remarking, breaking, remarking]⟩ wordContext).records.filter
          (fun r => decide (r.channel = .linter)) =
        [⟨.error, .linter, "Rule general.breaking failed on Sources/Word.swift"⟩,
          ⟨.info, .linter, "Linted Sources/Word.swift: 2 diagnostic(s)"⟩] ∧
      (walkFor breakingInspector breaking.definition.info wordContext breaking).state.2.length = 1 ∧
      contribution wordContext breaking = [] ∧
      (∃ cause, (lint ⟨[breaking, stopping, remarking]⟩ wordContext).value = .error cause) ∧
      reached (views ⟨[breaking, stopping, remarking]⟩ wordContext) =
        views ⟨[breaking, stopping]⟩ wordContext := by
  have hcalm := lint_isolates_failures ⟨[remarking, breaking, remarking]⟩ wordContext
  have hstopped := lint_isolates_failures ⟨[breaking, stopping, remarking]⟩ wordContext
  have hisolated := hcalm.1 (by decide +kernel)
  have hrecords := hisolated.own_records (by decide +kernel)
  have hfailed : (walkFor breakingInspector breaking.definition.info wordContext breaking).ending =
      .failed .noAnswer := by decide +kernel
  refine ⟨hisolated, hrecords.trans (by decide +kernel), by decide +kernel, ?_, ?_, ?_⟩
  · exact hcalm.2.2.2 breakingInspector breaking.definition.info breaking .noAnswer rfl hfailed
  · exact hstopped.2.1.mpr ⟨stopping, by simp, by decide +kernel⟩
  · exact (hstopped.2.2.1 [breaking] stopping [remarking] _ rfl (by decide +kernel) rfl rfl).2

end TreeLint.Linter
