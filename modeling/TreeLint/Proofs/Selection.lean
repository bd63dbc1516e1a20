/-
  TreeLint/Proofs/Selection.lean
  ==============================
  **Selecting rules before a run, or findings after it.**  A linter that wants some rules only has those
  rules of the unrestricted linter that are wanted (`rules_wanted`), and a rule finds the same whoever
  runs beside it.  Since an inspecting rule stamps all of its findings with its own identifier
  (`rule_of_contribution`), leaving the rule out and dropping its findings come to the same.

  The main statement is `lint_wanted_eq_filter`.
-/
import TreeLint.Proofs.Attribution

namespace TreeLint.Linter

variable {configuration : Configuration} {registry : Registry} {profile : Option String}
  {wanted : List String} {c : Context}

theorem rules_wanted :
    (build configuration registry profile (some wanted)).value.rules =
      (build configuration registry profile none).value.rules.filter
        (wanted.contains ·.identifier) := by
  rw [rules_eq, rules_eq, selected, selected, List.filterMap_filter, List.filter_filterMap]
  apply List.filterMap_congr
  intro i _
  cases hrule : (chooseRule configuration registry profile i).value with
  | none => simp
  | some rule => rw [Option.filter_some, identifier_of_chooseRule hrule]

theorem rule_of_contribution {rule : Rule} (hinspect : IsInspection rule.definition) {d : Diagnostic}
    (hd : d ∈ contribution c rule) : d.rule = rule.identifier := by
  obtain ⟨inspector, hcheck⟩ := hinspect
  unfold contribution outcome Rule.lint at hd
  rw [hcheck] at hd
  split at hd
  · next found hfound => exact (Inspector.check_stamped hfound d hd).rule
  · cases hd

/-- What inspecting rules contribute can be sorted out by rule, before or after it is put together. -/
theorem flatMap_contribution_wanted {rules : List Rule}
    (hinspect : ∀ rule ∈ rules, IsInspection rule.definition) (wanted : List String) :
    (rules.filter (wanted.contains ·.identifier)).flatMap (contribution c) =
      (rules.flatMap (contribution c)).filter (wanted.contains ·.rule) := by
  induction rules with
  | nil => rfl
  | cons rule rules ih =>
    have hown : ∀ d ∈ contribution c rule, d.rule = rule.identifier := fun d hd =>
      rule_of_contribution (hinspect rule List.mem_cons_self) hd
    rw [List.flatMap_cons, List.filter_append, ← ih fun r hr => hinspect r (List.mem_cons_of_mem _ hr)]
    cases hrule : wanted.contains rule.identifier with
    | true =>
      have hkept : (contribution c rule).filter (wanted.contains ·.rule) = contribution c rule := by
        rw [List.filter_eq_self]
        intro d hd
        rw [hown d hd, hrule]
      simp only [List.filter_cons, hrule, if_true, List.flatMap_cons, hkept]
    | false =>
      have hdropped : (contribution c rule).filter (wanted.contains ·.rule) = [] := by
        rw [List.filter_eq_nil_iff]
        intro d hd
        rw [hown d hd, hrule]
        exact Bool.false_ne_true
      simp only [List.filter_cons, hrule, Bool.false_eq_true, if_false, hdropped, List.nil_append]

/-- **Wanting some rules only is the same as keeping their findings only.**  Both runs return, and the
findings of the restricted linter are those of the unrestricted one whose rule is wanted, in the same
order.  This is for registries of inspecting rules, any of which may fail; only an interruption, which
ends a run, is left out. -/
theorem lint_wanted_eq_filter (configuration : Configuration) (registry : Registry)
    (profile : Option String) (wanted : List String) (c : Context)
    (hinspect : ∀ d ∈ registry.definitions, IsInspection d)
    (hcalm : ∀ rule ∈ (build configuration registry profile none).value.rules,
      interrupted c rule = false) :
    ∃ found, ((build configuration registry profile none).value.lint c).value = .ok found ∧
      ((build configuration registry profile (some wanted)).value.lint c).value =
        .ok (found.filter (wanted.contains ·.rule)) := by
  have hrules : ∀ rule ∈ (build configuration registry profile none).value.rules,
      IsInspection rule.definition := fun rule hrule =>
    hinspect rule.definition (Registry.mem_of_get? (mem_rules_iff.mp hrule).1)
  have hcalmWanted : ∀ rule ∈ (build configuration registry profile (some wanted)).value.rules,
      interrupted c rule = false := by
    intro rule hrule
    rw [rules_wanted] at hrule
    exact hcalm rule (List.mem_of_mem_filter hrule)
  refine ⟨_, congrArg Logged.value (lint_of_calm hcalm), ?_⟩
  rw [lint_of_calm hcalmWanted, rules_wanted, flatMap_contribution_wanted hrules]

/-- Two rules that remark on every file, and between them one that fails. -/
def mixedRegistry : Registry :=
  ⟨[remarkingDefinition 1 "general.c", breaking.definition, remarkingDefinition 3 "general.a"]⟩

theorem lint_wanted_eq_filter_sample :
    let wanted := ["general.c", "general.x", "general.breaking", "general.c"]
    (∀ d ∈ mixedRegistry.definitions, IsInspection d) ∧
      (∀ rule ∈ (build {} mixedRegistry none none).value.rules,
        interrupted wordContext rule = false) ∧
      ∃ found, ((build {} mixedRegistry none none).value.lint wordContext).value = .ok found ∧
        found.map Diagnostic.rule = ["general.a", "general.c"] ∧
        ((build {} mixedRegistry none (some wanted)).value.lint wordContext).value =
          .ok (found.filter (wanted.contains ·.rule)) ∧
        (found.filter (wanted.contains ·.rule)).map Diagnostic.rule = ["general.c"] := by
  intro wanted
  have hinspect : ∀ d ∈ mixedRegistry.definitions, IsInspection d := by
    intro d hd
    simp only [mixedRegistry, List.mem_cons, List.not_mem_nil, or_false] at hd
    rcases hd with rfl | rfl | rfl
    · exact ⟨_, rfl⟩
    · exact ⟨_, rfl⟩
    · exact ⟨_, rfl⟩
  have hlisting : mixedRegistry.identifiers = ["general.a", "general.breaking", "general.c"] := by
    rw [Registry.identifiers, show mixedRegistry.definitions.map RuleDefinition.identifier =
      ["general.c", "general.breaking", "general.a"] from rfl]
    simp [List.mergeSort, List.MergeSort.Internal.splitInTwo]
  have hrules : (build {} mixedRegistry none none).value.rules =
      [⟨remarkingDefinition 3 "general.a", {}⟩, ⟨breaking.definition, {}⟩,
        ⟨remarkingDefinition 1 "general.c", {}⟩] := by
    simp only [rules_eq, selected, hlisting]
    rfl
  have hcalm : ∀ rule ∈ (build {} mixedRegistry none none).value.rules,
      interrupted wordContext rule = false := by
    rw [hrules]
    decide +kernel
  obtain ⟨found, hall, hwanted⟩ :=
    lint_wanted_eq_filter {} mixedRegistry none wanted wordContext hinspect hcalm
  have hfound := eq_contributions_of_lint_ok hall
  rw [hrules] at hfound
  refine ⟨hinspect, hcalm, found, hall, ?_, hwanted, ?_⟩
  · rw [hfound]
    decide +kernel
  · rw [hfound]
    decide +kernel

end TreeLint.Linter
