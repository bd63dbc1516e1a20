/-
  TreeLint/Proofs/RegistrationOrder.lean
  ======================================
  **The order of registration makes no difference.**  Whether a list of definitions can be registered
  is a matter of the definitions alone: all of them have names, and no two compete for one
  (`ofList_ok_iff`).  In a registry that came about without a refusal an identifier is held by the
  definition that was offered under it (`get?_of_ofList`), so permutations of a list lead to registries
  that look the same from outside.  A registry keeps its definitions in the order of registration, but
  every listing goes by identifier, and strictly increasing lists with the same members are equal.

  The main statement is `registration_order_irrelevant`; its last part says that the six categories
  divide the rules among them.
-/
import TreeLint.Proofs.RuleChoice

namespace TreeLint.Registry

/-- A serial number stands for one definition. -/
def Identified (ds : List RuleDefinition) : Prop :=
  ∀ d ∈ ds, ∀ e ∈ ds, d.serial = e.serial → d = e

/-- Definitions that can stand in one registry. -/
structure Compatible (ds : List RuleDefinition) : Prop where
  named : ∀ d ∈ ds, d.identifier ≠ ""
  unrivalled : ∀ d ∈ ds, ∀ e ∈ ds, d.identifier = e.identifier → d.serial = e.serial

variable {r r' : Registry} {ds ds' : List RuleDefinition} {d : RuleDefinition} {i : String}

/-! ### Registering without a refusal -/

theorem registerAll_cons_ok_iff :
    (∃ made, r.registerAll (d :: ds) = .ok made) ↔
      (∃ added, r.register d = .ok added) ∧ ∃ made, (r.offer d).registerAll ds = .ok made := by
  simp only [registerAll, offer]
  cases r.register d with
  | error e => simp
  | ok added =>
    cases hrest : added.value.registerAll ds with
    | error e => simp [hrest]
    | ok made => simp [hrest]

theorem register_ok_iff :
    (∃ added, r.register d = .ok added) ↔
      d.identifier ≠ "" ∧ ∀ holder, r.get? d.identifier = some holder → holder.serial = d.serial := by
  rcases r.register_cases d with ⟨hempty, h⟩ | ⟨hnamed, hfree, h⟩ | ⟨hnamed, holder, hget, hcase⟩
  · simp [h, hempty]
  · simp [h, hnamed, hfree]
  · rcases hcase with ⟨hsame, h⟩ | ⟨hother, h⟩
    · simp [h, hnamed, hget, hsame]
    · simp [h, hget, hother]

/-- What an accepted offer leaves under an identifier. -/
theorem get?_offer_of_ok (h : ∃ added, r.register d = .ok added) (i : String) :
    (r.offer d).get? i = (r.get? i).or (if d.identifier == i then some d else none) := by
  obtain ⟨added, hadded⟩ := h
  have hoffer := get?_foldl_offer [d] r i
  simp only [List.foldl_cons, List.foldl_nil, accepted, hadded, List.find?_singleton] at hoffer
  exact hoffer

/-- Definitions are registered one after the other if they agree with what is held already and among
each other. -/
theorem registerAll_ok_iff :
    (∃ made, r.registerAll ds = .ok made) ↔
      Compatible ds ∧
        ∀ d ∈ ds, ∀ holder, r.get? d.identifier = some holder → holder.serial = d.serial := by
  induction ds generalizing r with
  | nil => exact ⟨fun _ => ⟨⟨by simp, by simp⟩, by simp⟩, fun _ => ⟨pure r, rfl⟩⟩
  | cons d ds ih =>
    rw [registerAll_cons_ok_iff, ih]
    constructor
    · rintro ⟨hadded, hrest, hheld⟩
      obtain ⟨hnamed, hown⟩ := register_ok_iff.mp hadded
      -- whoever comes later finds `d`, or the holder that `d` agrees with
      have hlater : ∀ e ∈ ds, ∀ holder, r.get? e.identifier = some holder →
          holder.serial = e.serial := by
        intro e he holder hholder
        apply hheld e he holder
        rw [get?_offer_of_ok hadded, hholder, Option.some_or]
      have hrival : ∀ e ∈ ds, d.identifier = e.identifier → d.serial = e.serial := by
        intro e he hsame
        cases hget : r.get? e.identifier with
        | none =>
          apply hheld e he d
          rw [get?_offer_of_ok hadded, hget, hsame, Option.none_or, if_pos (beq_self_eq_true _)]
        | some holder =>
          rw [← hown holder (by rw [hsame, hget])]
          exact hlater e he holder hget
      refine ⟨⟨?_, ?_⟩, ?_⟩
      · exact List.forall_mem_cons.mpr ⟨hnamed, hrest.named⟩
      · intro e he f hf hsame
        rcases List.mem_cons.mp he with hfirst | he
        · rcases List.mem_cons.mp hf with hsecond | hf
          · rw [hfirst, hsecond]
          · rw [hfirst] at hsame ⊢
            exact hrival f hf hsame
        · rcases List.mem_cons.mp hf with hsecond | hf
          · rw [hsecond] at hsame ⊢
            exact (hrival e he hsame.symm).symm
          · exact hrest.unrivalled e he f hf hsame
      · exact List.forall_mem_cons.mpr ⟨hown, hlater⟩
    · rintro ⟨⟨hnamed, hunrivalled⟩, hheld⟩
      have hadded : ∃ added, r.register d = .ok added :=
        register_ok_iff.mpr ⟨hnamed d List.mem_cons_self, hheld d List.mem_cons_self⟩
      refine ⟨hadded, ⟨?_, ?_⟩, ?_⟩
      · exact fun e he => hnamed e (List.mem_cons_of_mem d he)
      · exact fun e he f hf =>
          hunrivalled e (List.mem_cons_of_mem d he) f (List.mem_cons_of_mem d hf)
      · intro e he holder hholder
        rw [get?_offer_of_ok hadded] at hholder
        cases hget : r.get? e.identifier with
        | some other =>
          rw [hget, Option.some_or] at hholder
          exact hheld e (List.mem_cons_of_mem d he) holder (hget.trans hholder)
        | none =>
          rw [hget, Option.none_or] at hholder
          split at hholder
          · next hsame =>
            obtain rfl := Option.some.inj hholder
            exact hunrivalled d List.mem_cons_self e (List.mem_cons_of_mem d he)
              (beq_iff_eq.mp hsame)
          · cases hholder

theorem ofList_ok_iff : (∃ made, ofList ds = .ok made) ↔ Compatible ds := by
  rw [ofList, registerAll_ok_iff]
  constructor
  · exact And.left
  · intro hcompatible
    refine ⟨hcompatible, ?_⟩
    intro d _ holder hholder
    cases hholder

/-- A run without a refusal accepts everything that is offered. -/
theorem registerAll_eq_ok {made : Logged Registry} (h : r.registerAll ds = .ok made) :
    made.value = ds.foldl offer r ∧ r.accepted ds = ds := by
  induction ds generalizing r made with
  | nil =>
    obtain rfl := Except.ok.inj h
    exact ⟨rfl, rfl⟩
  | cons d ds ih =>
    simp only [registerAll] at h
    split at h
    · cases h
    · next added hadded =>
      split at h
      · cases h
      · next done hdone =>
        obtain rfl := Except.ok.inj h
        obtain ⟨hvalue, haccepted⟩ := ih hdone
        simp only [List.foldl_cons, offer, accepted, hadded]
        exact ⟨hvalue, congrArg (d :: ·) haccepted⟩

theorem consistent_of_ofList {made : Logged Registry} (h : ofList ds = .ok made) :
    made.value.Consistent := by
  rw [(registerAll_eq_ok h).1]
  exact consistent_afterOffers ds

/-- An identifier is held by the definition that was offered under it. -/
theorem get?_of_ofList {made : Logged Registry} (hserial : Identified ds)
    (h : ofList ds = .ok made) : made.value.get? i = some d ↔ d ∈ ds ∧ d.identifier = i := by
  obtain ⟨hvalue, haccepted⟩ := registerAll_eq_ok h
  have hfirst : made.value.get? i = ds.find? (·.identifier == i) := by
    rw [hvalue]
    exact (get?_afterOffers ds i).trans (by rw [haccepted])
  have hcompatible : Compatible ds := ofList_ok_iff.mp ⟨made, h⟩
  rw [hfirst]
  constructor
  · intro hfound
    exact ⟨List.mem_of_find?_eq_some hfound, by simpa using List.find?_some hfound⟩
  · rintro ⟨hmem, rfl⟩
    cases hfound : ds.find? (·.identifier == d.identifier) with
    | none =>
      have hnone := List.find?_eq_none.mp hfound d hmem
      simp at hnone
    | some e =>
      have hother : e ∈ ds := List.mem_of_find?_eq_some hfound
      have hsame : e.identifier = d.identifier := by simpa using List.find?_some hfound
      rw [hserial e hother d hmem (hcompatible.unrivalled e hother d hmem hsame)]

/-! ### Registries that look the same from outside -/

/-- Nothing that can be asked of two registries, and no linter that is built on them, tells them apart. -/
structure Alike (r r' : Registry) : Prop where
  identifiers : r.identifiers = r'.identifiers
  rules : r.rules = r'.rules
  allInfo : r.allInfo = r'.allInfo
  rulesFor : ∀ category, r.rulesFor category = r'.rulesFor category
  get? : ∀ i, r.get? i = r'.get? i
  create : ∀ i settings, r.create i settings = r'.create i settings
  built : ∀ configuration profile only,
    Linter.build configuration r profile only = Linter.build configuration r' profile only
  linted : ∀ configuration profile only c,
    (Linter.build configuration r profile only).value.lint c =
      (Linter.build configuration r' profile only).value.lint c

/-- The listing of a registry is determined by who is known in it. -/
theorem Consistent.identifiers_congr (h : r.Consistent) (h' : r'.Consistent)
    (hknown : ∀ i, r.contains i = r'.contains i) : r.identifiers = r'.identifiers := by
  have hnodup : r.identifiers.Nodup := h.identifiers_increasing.imp ne_of_lt
  have hnodup' : r'.identifiers.Nodup := h'.identifiers_increasing.imp ne_of_lt
  have hperm : r.identifiers.Perm r'.identifiers := by
    rw [List.perm_ext_iff_of_nodup hnodup hnodup']
    intro i
    rw [mem_identifiers, mem_identifiers, hknown]
  apply hperm.eq_of_pairwise _ h.identifiers_increasing h'.identifiers_increasing
  intro i j _ _ hij hji
  exact absurd hij (lt_asymm hji)

theorem chooseRules_congr (hget : ∀ i, r.get? i = r'.get? i) (configuration : Configuration)
    (profile : Option String) (identifiers : List String) :
    Linter.chooseRules configuration r profile identifiers =
      Linter.chooseRules configuration r' profile identifiers := by
  induction identifiers with
  | nil => rfl
  | cons i identifiers ih =>
    simp only [Linter.chooseRules, Linter.chooseRule, create, hget, ih]

theorem build_congr (hget : ∀ i, r.get? i = r'.get? i) (hlisting : r.identifiers = r'.identifiers)
    (configuration : Configuration) (profile : Option String) (only : Option (List String)) :
    Linter.build configuration r profile only = Linter.build configuration r' profile only := by
  have hselected : Linter.selected r only = Linter.selected r' only := by
    cases only with
    | none => exact hlisting
    | some wanted => exact congrArg (List.filter _) hlisting
  simp only [Linter.build, Linter.unknownRules, contains, hget, hselected,
    chooseRules_congr hget configuration profile]

/-- Two registries are alike as soon as every identifier is held by the same definition in both. -/
theorem Consistent.alike (h : r.Consistent) (h' : r'.Consistent)
    (hget : ∀ i, r.get? i = r'.get? i) : r.Alike r' := by
  have hlisting : r.identifiers = r'.identifiers :=
    h.identifiers_congr h' fun i => by rw [contains, contains, hget]
  have hrules : r.rules = r'.rules := by
    rw [Registry.rules, Registry.rules, hlisting, funext hget]
  have hbuilt := build_congr hget hlisting
  exact {
    identifiers := hlisting
    rules := hrules
    allInfo := by
      rw [Registry.allInfo, Registry.allInfo, hlisting]
      exact List.filterMap_congr fun i _ => congrArg (Option.map _) (hget i)
    rulesFor := fun category => by rw [Registry.rulesFor, Registry.rulesFor, hrules]
    get? := hget
    create := fun i settings => by rw [Registry.create, Registry.create, hget]
    built := hbuilt
    linted := fun configuration profile only c => by rw [hbuilt configuration profile only] }

/-! ### Categories -/

theorem Consistent.rules_nodup (h : r.Consistent) : r.rules.Nodup := by
  have hnodup : (r.identifiers.map r.get?).Nodup := by
    apply List.Nodup.map_on _ (h.identifiers_increasing.imp ne_of_lt)
    intro i hi j _ hsame
    obtain ⟨d, hd⟩ := contains_iff_get?.mp (mem_identifiers.mp hi)
    rw [← identifier_of_get? hd, identifier_of_get? (hsame ▸ hd)]
  rw [← map_some_filterMap fun _ => id] at hnodup
  exact hnodup.of_map

theorem existsUnique_category {d : RuleDefinition} (h : d ∈ r.rules) :
    ∃! category, category ∈ Category.all ∧ d ∈ r.rulesFor category := by
  refine ⟨d.info.category, ⟨?_, ?_⟩, ?_⟩
  · cases d.info.category <;> decide
  · exact List.mem_filter.mpr ⟨h, beq_self_eq_true _⟩
  · rintro category ⟨-, hmem⟩
    exact (beq_iff_eq.mp (List.mem_filter.mp hmem).2).symm

/-- **Registration order is irrelevant.**  A permutation of a list of definitions can be registered
exactly when the list can, and then the two registries are alike.  Of the six categories, each rule is in
the list of exactly one, and the list of each has its rules in the order of all rules. -/
theorem registration_order_irrelevant (ds ds' : List RuleDefinition) (hserial : Identified ds)
    (hperm : ds.Perm ds') :
    ((∃ made, ofList ds = .ok made) ↔ ∃ made', ofList ds' = .ok made') ∧
      ∀ made made', ofList ds = .ok made → ofList ds' = .ok made' →
        made.value.Alike made'.value ∧ made.value.rules.Nodup ∧
          (∀ d ∈ made.value.rules,
            ∃! category, category ∈ Category.all ∧ d ∈ made.value.rulesFor category) ∧
          ∀ category, (made.value.rulesFor category).Sublist made.value.rules := by
  have hserial' : Identified ds' := fun d hd e he =>
    hserial d (hperm.mem_iff.mpr hd) e (hperm.mem_iff.mpr he)
  refine ⟨?_, ?_⟩
  · rw [ofList_ok_iff, ofList_ok_iff]
    constructor
    · rintro ⟨hnamed, hunrivalled⟩
      exact ⟨fun d hd => hnamed d (hperm.mem_iff.mpr hd), fun d hd e he =>
        hunrivalled d (hperm.mem_iff.mpr hd) e (hperm.mem_iff.mpr he)⟩
    · rintro ⟨hnamed, hunrivalled⟩
      exact ⟨fun d hd => hnamed d (hperm.mem_iff.mp hd), fun d hd e he =>
        hunrivalled d (hperm.mem_iff.mp hd) e (hperm.mem_iff.mp he)⟩
  · intro made made' hmade hmade'
    have hconsistent := consistent_of_ofList hmade
    refine ⟨hconsistent.alike (consistent_of_ofList hmade') ?_, hconsistent.rules_nodup,
      fun d hd => existsUnique_category hd, fun category => List.filter_sublist⟩
    intro i
    apply Option.ext
    intro d
    rw [get?_of_ofList hserial hmade, get?_of_ofList hserial' hmade', hperm.mem_iff]

theorem identified_of_nodup {known : List RuleDefinition}
    (hnodup : (known.map RuleDefinition.serial).Nodup) (hsubset : ds ⊆ known) : Identified ds :=
  fun _ hd _ he hsame => List.inj_on_of_nodup_map hnodup (hsubset hd) (hsubset he) hsame

/-- Three definitions, one of them offered twice. -/
def repeatedOffers : List RuleDefinition :=
  [PublicImport.definition, Linter.quietDefinition 2 "general.b",
    Linter.quietDefinition 1 "general.a", PublicImport.definition]

theorem identified_repeatedOffers : Identified repeatedOffers := by
  have hnodup : ([PublicImport.definition, Linter.quietDefinition 2 "general.b",
      Linter.quietDefinition 1 "general.a"].map RuleDefinition.serial).Nodup := by decide
  exact identified_of_nodup hnodup (by simp [repeatedOffers])

/-- The registries differ inside but not from outside; and a rival is refused in either order. -/
theorem registration_order_irrelevant_sample :
    (∃ made made', ofList repeatedOffers = .ok made ∧ ofList repeatedOffers.reverse = .ok made' ∧
        made.value.definitions.map RuleDefinition.identifier =
          ["library-design.public-import", "general.b", "general.a"] ∧
        made'.value.definitions.map RuleDefinition.identifier =
          ["library-design.public-import", "general.a", "general.b"] ∧
        made.value.Alike made'.value ∧
        ∃! category, category ∈ Category.all ∧
          PublicImport.definition ∈ made.value.rulesFor category) ∧
      (¬∃ made, ofList [PublicImport.definition, rivalDefinition] = .ok made) ∧
      ¬∃ made, ofList [rivalDefinition, PublicImport.definition] = .ok made := by
  have hlist := registration_order_irrelevant repeatedOffers repeatedOffers.reverse
    identified_repeatedOffers (List.reverse_perm repeatedOffers).symm
  have hmade : ∃ made, ofList repeatedOffers = .ok made := ⟨_, rfl⟩
  have hrivals : Identified [PublicImport.definition, rivalDefinition] :=
    identified_of_nodup (by decide) (List.Subset.refl _)
  have hrefused : ¬∃ made, ofList [PublicImport.definition, rivalDefinition] = .ok made := by
    rw [ofList_ok_iff]
    intro hcompatible
    exact absurd (hcompatible.unrivalled PublicImport.definition (by simp) rivalDefinition (by simp) rfl)
      (by decide)
  have hswap := registration_order_irrelevant [PublicImport.definition, rivalDefinition]
    [rivalDefinition, PublicImport.definition] hrivals (List.Perm.swap _ _ _)
  refine ⟨?_, hrefused, fun hmade' => hrefused (hswap.1.mpr hmade')⟩
  obtain ⟨made', hmade'⟩ := hlist.1.mp hmade
  obtain ⟨made, hmade⟩ := hmade
  obtain ⟨halike, -, hcategory, -⟩ := hlist.2 made made' hmade hmade'
  refine ⟨made, made', hmade, hmade', ?_, ?_, halike, hcategory _ ?_⟩
  · rw [(registerAll_eq_ok hmade).1]
    rfl
  · rw [(registerAll_eq_ok hmade').1]
    rfl
  · have hget := (get?_of_ofList identified_repeatedOffers hmade).mpr
      ⟨List.mem_cons_self, rfl⟩
    exact List.mem_filterMap.mpr
      ⟨_, mem_identifiers.mpr (contains_iff_get?.mpr ⟨_, hget⟩), hget⟩

end TreeLint.Registry
