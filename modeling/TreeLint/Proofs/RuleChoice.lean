/-
  TreeLint/Proofs/RuleChoice.lean
  ===============================
  **Which rules a linter runs.**  A linter is built by going through the identifiers of a registry in
  order, leaving out those that are not wanted, and making a rule of each that its settings switch on.
  So the rules are told one by one: a rule is among them exactly when its definition is registered, its
  identifier is wanted and its settings are the ones in force and switch it on (`mem_rules_iff`).

  Their order is that of the identifiers (`sublist_identifiers`).  The list of wanted identifiers counts
  only by which registered ones are in it, and a profile that does not exist counts for nothing.

  The main statement is `build_chooses_rules`.
-/
import TreeLint.Linter
import TreeLint.Proofs.Registration
import TreeLint.Rules.Scripted

namespace TreeLint.Linter

open Data

section Choice

variable {configuration : Configuration} {registry : Registry} {profile : Option String}
  {only : Option (List String)}

/-! ### One rule -/

theorem chooseRule_eq_some_iff {i : String} {rule : Rule} :
    (chooseRule configuration registry profile i).value = some rule ↔
      registry.get? i = some rule.definition ∧
        rule.settings = (configuration.settingsFor i profile).value ∧
        (configuration.settingsFor i profile).value.enabled = true := by
  obtain ⟨definition, settings⟩ := rule
  unfold chooseRule
  simp only [Logged.value_bind]
  generalize (configuration.settingsFor i profile).value = inForce
  cases hswitch : inForce.enabled with
  | false => simp
  | true =>
    simp only [if_true, Logged.value_pure, Registry.create, Option.map_eq_some_iff,
      RuleDefinition.create, Option.getD_some, Rule.mk.injEq, and_true]
    constructor
    · rintro ⟨d, hd, rfl, rfl⟩
      exact ⟨hd, rfl⟩
    · rintro ⟨hd, rfl⟩
      exact ⟨definition, hd, rfl, rfl⟩

/-- A rule is chosen for its own identifier. -/
theorem identifier_of_chooseRule {i : String} {rule : Rule}
    (h : (chooseRule configuration registry profile i).value = some rule) : rule.identifier = i :=
  Registry.identifier_of_get? (chooseRule_eq_some_iff.mp h).1

/-! ### All rules -/

theorem chooseRules_value (identifiers : List String) :
    (chooseRules configuration registry profile identifiers).value =
      identifiers.filterMap fun i => (chooseRule configuration registry profile i).value := by
  induction identifiers with
  | nil => rfl
  | cons i identifiers ih =>
    simp only [chooseRules, Logged.value_bind, Logged.value_pure, ih, List.filterMap_cons]
    cases (chooseRule configuration registry profile i).value with
    | none => rfl
    | some rule => rfl

theorem rules_eq :
    (build configuration registry profile only).value.rules =
      (selected registry only).filterMap fun i =>
        (chooseRule configuration registry profile i).value :=
  chooseRules_value _

theorem mem_selected_iff {i : String} :
    i ∈ selected registry only ↔ registry.contains i = true ∧ ∀ wanted ∈ only, i ∈ wanted := by
  cases only with
  | none => simp [selected, Registry.mem_identifiers]
  | some wanted => simp [selected, Registry.mem_identifiers]

theorem selected_sublist : (selected registry only).Sublist registry.identifiers := by
  cases only with
  | none => exact List.Sublist.refl _
  | some wanted => exact List.filter_sublist

/-- A rule of the linter has its definition from the registry and the settings in force, which switch it
on, and it is wanted; every such rule is there. -/
theorem mem_rules_iff {rule : Rule} :
    rule ∈ (build configuration registry profile only).value.rules ↔
      registry.get? rule.identifier = some rule.definition ∧
        (∀ wanted ∈ only, rule.identifier ∈ wanted) ∧
        rule.settings = (configuration.settingsFor rule.identifier profile).value ∧
        (configuration.settingsFor rule.identifier profile).value.enabled = true := by
  rw [rules_eq, List.mem_filterMap]
  constructor
  · rintro ⟨i, hi, hrule⟩
    obtain rfl := identifier_of_chooseRule hrule
    obtain ⟨hget, hsettings⟩ := chooseRule_eq_some_iff.mp hrule
    exact ⟨hget, (mem_selected_iff.mp hi).2, hsettings⟩
  · rintro ⟨hget, hwanted, hsettings⟩
    refine ⟨rule.identifier, ?_, chooseRule_eq_some_iff.mpr ⟨hget, hsettings⟩⟩
    exact mem_selected_iff.mpr ⟨Registry.contains_iff_get?.mpr ⟨_, hget⟩, hwanted⟩

/-- The identifiers of chosen rules are identifiers that the choice was made from, in their order. -/
theorem map_identifier_sublist (identifiers : List String) :
    ((identifiers.filterMap fun i => (chooseRule configuration registry profile i).value).map
      Rule.identifier).Sublist identifiers := by
  induction identifiers with
  | nil => exact List.Sublist.slnil
  | cons i identifiers ih =>
    cases hrule : (chooseRule configuration registry profile i).value with
    | none =>
      simp only [List.filterMap_cons, hrule]
      exact ih.cons i
    | some rule =>
      simp only [List.filterMap_cons, hrule, List.map_cons, identifier_of_chooseRule hrule]
      exact ih.cons_cons i

theorem sublist_identifiers :
    ((build configuration registry profile only).value.rules.map Rule.identifier).Sublist
      registry.identifiers := by
  rw [rules_eq]
  exact (map_identifier_sublist _).trans selected_sublist

/-- An identifier has a rule exactly when it is registered, wanted and switched on. -/
theorem exists_rule_iff {i : String} :
    (∃ rule ∈ (build configuration registry profile only).value.rules, rule.identifier = i) ↔
      registry.contains i = true ∧ (∀ wanted ∈ only, i ∈ wanted) ∧
        (configuration.settingsFor i profile).value.enabled = true := by
  constructor
  · rintro ⟨rule, hrule, rfl⟩
    obtain ⟨hget, hwanted, -, hon⟩ := mem_rules_iff.mp hrule
    exact ⟨Registry.contains_iff_get?.mpr ⟨_, hget⟩, hwanted, hon⟩
  · rintro ⟨hknown, hwanted, hon⟩
    obtain ⟨d, hget⟩ := Registry.contains_iff_get?.mp hknown
    obtain rfl := Registry.identifier_of_get? hget
    exact ⟨⟨d, (configuration.settingsFor d.identifier profile).value⟩,
      mem_rules_iff.mpr ⟨hget, hwanted, rfl, hon⟩, rfl⟩

/-! ### What makes no difference -/

theorem selected_congr {wanted wanted' : List String}
    (h : ∀ i, registry.contains i = true → (i ∈ wanted ↔ i ∈ wanted')) :
    selected registry (some wanted) = selected registry (some wanted') := by
  apply List.filter_congr
  intro i hi
  rw [Bool.eq_iff_iff, List.contains_iff_mem, List.contains_iff_mem]
  exact h i (Registry.mem_identifiers.mp hi)

theorem settingsFor_unknown {name : String} (h : Entries.get? name configuration.profiles = none)
    (i : String) :
    (configuration.settingsFor i (some name)).value = (configuration.settingsFor i none).value := by
  simp only [Configuration.settingsFor, h]
  rfl

theorem chooseRule_unknown {name : String} (h : Entries.get? name configuration.profiles = none)
    (i : String) :
    (chooseRule configuration registry (some name) i).value =
      (chooseRule configuration registry none i).value := by
  apply Option.ext
  intro rule
  rw [chooseRule_eq_some_iff, chooseRule_eq_some_iff, settingsFor_unknown h]

end Choice

/-- **Which rules a linter runs**, for every configuration, profile and list of wanted identifiers, and
for every registry that can come about.

1. Identifiers are strictly increasing, so no rule is there twice.
2. An identifier has a rule exactly when it is registered, wanted and switched on.
3. Each rule has the definition that is registered under its identifier, and the settings in force.
4. Lists that want the same registered identifiers give the same rules.
5. A profile that does not exist gives the same rules as none. -/
theorem build_chooses_rules (configuration : Configuration) (offers : List RuleDefinition)
    (profile : Option String) (only : Option (List String)) :
    let registry := Registry.afterOffers offers
    let rules := (build configuration registry profile only).value.rules
    (rules.map Rule.identifier).Pairwise (· < ·) ∧
      (∀ i, (∃ rule ∈ rules, rule.identifier = i) ↔
        registry.contains i = true ∧ (∀ wanted ∈ only, i ∈ wanted) ∧
          (configuration.settingsFor i profile).value.enabled = true) ∧
      (∀ rule ∈ rules, registry.get? rule.identifier = some rule.definition ∧
        rule.settings = (configuration.settingsFor rule.identifier profile).value) ∧
      (∀ wanted wanted', (∀ i, registry.contains i = true → (i ∈ wanted ↔ i ∈ wanted')) →
        (build configuration registry profile (some wanted)).value.rules =
          (build configuration registry profile (some wanted')).value.rules) ∧
      (∀ name, Entries.get? name configuration.profiles = none →
        (build configuration registry (some name) only).value.rules =
          (build configuration registry none only).value.rules) := by
  intro registry rules
  refine ⟨?_, fun i => exists_rule_iff, ?_, ?_, ?_⟩
  · exact (Registry.consistent_afterOffers offers).identifiers_increasing.sublist
      sublist_identifiers
  · intro rule hrule
    obtain ⟨hget, -, hsettings, -⟩ := mem_rules_iff.mp hrule
    exact ⟨hget, hsettings⟩
  · intro wanted wanted' hsame
    rw [rules_eq, rules_eq, selected_congr hsame]
  · intro name hunknown
    rw [rules_eq, rules_eq]
    exact List.filterMap_congr fun i _ => chooseRule_unknown hunknown i

def quietDefinition (serial : Nat) (identifier : String) : RuleDefinition :=
  ⟨serial, identifier, ⟨identifier, identifier, identifier, .general, .warning, none⟩, [], [],
    Scripted.silent⟩

/-- Offers out of order, among them a repetition, a conflict and a definition without a name. -/
def mixedOffers : List RuleDefinition :=
  [quietDefinition 1 "general.c", quietDefinition 2 "general.b", quietDefinition 3 "general.b",
    quietDefinition 4 "", quietDefinition 1 "general.c", quietDefinition 5 "general.a"]

/-- Switches one rule off, and has a profile that changes another. -/
def layeredConfiguration : Configuration where
  rules := [("general.c", { enabled := false }), ("general.a", { severity := some .info })]
  profiles := [("ci", ⟨[("general.b", { severity := some .error }), ("general.c", {})]⟩)]

theorem build_chooses_rules_sample :
    let registry := Registry.afterOffers mixedOffers
    let wanted := ["general.c", "general.b", "general.x", "general.a", "general.b"]
    ((build layeredConfiguration registry (some "ci") (some wanted)).value.rules.map
        fun rule => (rule.identifier, rule.definition.serial, rule.settings.severity)) =
        [("general.a", 5, some .info), ("general.b", 2, some .error)] ∧
      (build layeredConfiguration registry (some "ci") (some wanted)).value.rules =
        (build layeredConfiguration registry (some "ci")
          (some ["general.a", "general.b", "general.c"])).value.rules ∧
      (build layeredConfiguration registry (some "nightly") (some wanted)).value.rules =
        (build layeredConfiguration registry none (some wanted)).value.rules := by
  intro registry wanted
  have hrules := build_chooses_rules layeredConfiguration mixedOffers (some "ci") (some wanted)
  have hsame : ∀ i ∈ registry.definitions.map RuleDefinition.identifier,
      (i ∈ wanted ↔ i ∈ ["general.a", "general.b", "general.c"]) := by decide +kernel
  have hlisting : registry.identifiers = ["general.a", "general.b", "general.c"] := by
    have hoffered : registry.definitions.map RuleDefinition.identifier =
        ["general.c", "general.b", "general.a"] := by decide +kernel
    rw [Registry.identifiers, hoffered]
    simp [List.mergeSort, List.MergeSort.Internal.splitInTwo]
  refine ⟨?_, ?_, ?_⟩
  · simp only [rules_eq, selected, hlisting]
    decide +kernel
  · exact hrules.2.2.2.1 _ _ fun i hi => hsame i (Registry.contains_iff.mp hi)
  · exact hrules.2.2.2.2 "nightly" (by decide)

end TreeLint.Linter
