/-
  TreeLint/Proofs/Registration.lean
  =================================
  **Registries as they come about.**  A registry grows by offers.  An offer that is refused leaves it as
  it is, so every registry that can come about is what is left after a list of offers, whatever was among
  them (`afterOffers`).

  What one offer can come to is said once (`register_cases`): it is refused, it repeats what is known, or
  it adds a definition at the end under an identifier that is not empty and that nobody holds.  So the
  identifiers of a registry are distinct (`consistent_afterOffers`), their listing is strictly increasing
  (`identifiers_increasing`), and an identifier stays with the first definition that was accepted under
  it (`get?_afterOffers`).

  The main statement compares all that can be asked of a registry with the offers that it has seen
  (`registry_reflects_offers`).
-/
import Mathlib.Data.List.Dedup
import Mathlib.Data.List.Nodup
import Mathlib.Data.String.Basic
import TreeLint.Registry

namespace TreeLint.Registry

/-- The registry after an offer; a refusal changes nothing. -/
def offer (r : Registry) (d : RuleDefinition) : Registry :=
  match r.register d with
  | .ok added => added.value
  | .error _ => r

/-- The registry that a list of offers leads to. -/
def afterOffers (offers : List RuleDefinition) : Registry := offers.foldl offer empty

variable {r : Registry} {i : String} {d : RuleDefinition}

/-! ### Looking up -/

theorem get?_eq_none_iff : r.get? i = none ↔ i ∉ r.definitions.map RuleDefinition.identifier := by
  simp only [get?, List.find?_eq_none, beq_iff_eq, List.mem_map, not_exists, not_and]

theorem contains_iff : r.contains i = true ↔ i ∈ r.definitions.map RuleDefinition.identifier := by
  rw [contains, Option.isSome_iff_ne_none, ne_eq, get?_eq_none_iff, not_not]

theorem identifier_of_get? (h : r.get? i = some d) : d.identifier = i := by
  simpa using List.find?_some h

theorem mem_of_get? (h : r.get? i = some d) : d ∈ r.definitions := List.mem_of_find?_eq_some h

theorem contains_iff_get? : r.contains i = true ↔ ∃ d, r.get? i = some d :=
  Option.isSome_iff_exists

theorem mem_identifiers : i ∈ r.identifiers ↔ r.contains i = true := by
  rw [identifiers, List.mem_mergeSort, contains_iff]

/-! ### Offers -/

/-- Everything that registering can come to, with the condition for each. -/
theorem register_cases (r : Registry) (d : RuleDefinition) :
    (d.identifier = "" ∧ r.register d = .error (.emptyIdentifier d.label)) ∨
      (d.identifier ≠ "" ∧ r.get? d.identifier = none ∧
        r.register d = .ok ⟨⟨r.definitions ++ [d]⟩, [registrationRecord d]⟩) ∨
      (d.identifier ≠ "" ∧ ∃ holder, r.get? d.identifier = some holder ∧
        (holder.serial = d.serial ∧ r.register d = .ok ⟨r, [registrationRecord d]⟩ ∨
          holder.serial ≠ d.serial ∧
            r.register d = .error (.duplicate d.identifier holder.label d.label))) := by
  unfold register
  by_cases hempty : d.identifier = ""
  · left
    rw [hempty]
    exact ⟨rfl, rfl⟩
  · right
    rw [if_neg (by simpa using hempty)]
    cases hget : r.get? d.identifier with
    | none => exact Or.inl ⟨hempty, rfl, rfl⟩
    | some holder =>
      refine Or.inr ⟨hempty, holder, rfl, ?_⟩
      by_cases hsame : holder.serial = d.serial
      · exact Or.inl ⟨hsame, if_pos hsame⟩
      · exact Or.inr ⟨hsame, if_neg hsame⟩

theorem register_refused_iff :
    (∃ e, r.register d = .error e) ↔
      d.identifier = "" ∨
        ∃ holder, r.get? d.identifier = some holder ∧ holder.serial ≠ d.serial := by
  rcases r.register_cases d with ⟨hempty, h⟩ | ⟨hnamed, hfree, h⟩ | ⟨hnamed, holder, hget, hcase⟩
  · exact ⟨fun _ => Or.inl hempty, fun _ => ⟨_, h⟩⟩
  · simp [h, hnamed, hfree]
  · rcases hcase with ⟨hsame, h⟩ | ⟨hother, h⟩
    · simp [h, hnamed, hget, hsame]
    · exact ⟨fun _ => Or.inr ⟨holder, hget, hother⟩, fun _ => ⟨_, h⟩⟩

/-- An offer changes nothing, or it adds the definition under an identifier that is still free. -/
theorem offer_cases (r : Registry) (d : RuleDefinition) :
    r.offer d = r ∨
      (d.identifier ≠ "" ∧ r.get? d.identifier = none ∧ r.offer d = ⟨r.definitions ++ [d]⟩) := by
  unfold offer
  rcases r.register_cases d with ⟨-, h⟩ | ⟨hnamed, hfree, h⟩ | ⟨-, holder, -, ⟨-, h⟩ | ⟨-, h⟩⟩
  · rw [h]
    exact Or.inl rfl
  · rw [h]
    exact Or.inr ⟨hnamed, hfree, rfl⟩
  · rw [h]
    exact Or.inl rfl
  · rw [h]
    exact Or.inl rfl

theorem offer_of_refused (h : ∃ e, r.register d = .error e) : r.offer d = r := by
  obtain ⟨e, he⟩ := h
  rw [offer, he]

/-- Definitions have names, and no two have the same. -/
structure Consistent (r : Registry) : Prop where
  named : ∀ d ∈ r.definitions, d.identifier ≠ ""
  distinct : (r.definitions.map RuleDefinition.identifier).Nodup

theorem Consistent.offer (h : r.Consistent) (d : RuleDefinition) : (r.offer d).Consistent := by
  rcases r.offer_cases d with hsame | ⟨hnamed, hfree, hadded⟩
  · rw [hsame]
    exact h
  · rw [hadded]
    constructor
    · intro e he
      rcases List.mem_append.mp he with he | he
      · exact h.named e he
      · rw [List.mem_singleton.mp he]
        exact hnamed
    · rw [List.map_append, List.map_singleton, List.nodup_append]
      refine ⟨h.distinct, List.nodup_singleton _, ?_⟩
      intro j hj k hk hjk
      rw [hjk, List.mem_singleton.mp hk] at hj
      exact get?_eq_none_iff.mp hfree hj

theorem consistent_afterOffers (offers : List RuleDefinition) : (afterOffers offers).Consistent := by
  have hall : ∀ r : Registry, r.Consistent → (offers.foldl Registry.offer r).Consistent := by
    induction offers with
    | nil => exact fun r h => h
    | cons d offers ih => exact fun r h => ih (r.offer d) (h.offer d)
  apply hall
  constructor
  · intro d hd
    cases hd
  · exact List.nodup_nil

/-! ### Listings -/

theorem Consistent.identifiers_increasing (h : r.Consistent) :
    r.identifiers.Pairwise (· < ·) := by
  have htrans : ∀ a b c : String, decide (a ≤ b) = true → decide (b ≤ c) = true →
      decide (a ≤ c) = true := by
    simp only [decide_eq_true_eq]
    exact fun a b c hab hbc => le_trans hab hbc
  have htotal : ∀ a b : String, (decide (a ≤ b) || decide (b ≤ a)) = true := by
    simp only [Bool.or_eq_true, decide_eq_true_eq]
    exact fun a b => le_total a b
  have hsorted : r.identifiers.Pairwise fun a b => decide (a ≤ b) = true :=
    List.pairwise_mergeSort htrans htotal _
  have hdistinct : r.identifiers.Nodup := (List.mergeSort_perm _ _).nodup_iff.mpr h.distinct
  refine (hsorted.and hdistinct).imp ?_
  rintro a b ⟨hle, hne⟩
  exact lt_of_le_of_ne (of_decide_eq_true hle) hne

/-- Every identifier has its entry in a listing by lookup, and in the same place. -/
theorem map_some_filterMap {α : Type} {lookup : String → Option α}
    (h : ∀ i, r.contains i = true → (lookup i).isSome = true) :
    (r.identifiers.filterMap lookup).map some = r.identifiers.map lookup := by
  rw [List.map_filterMap_some_eq_filter_map_isSome, List.filter_eq_self]
  intro entry hentry
  obtain ⟨i, hi, rfl⟩ := List.mem_map.mp hentry
  exact h i (mem_identifiers.mp hi)

/-! ### Histories -/

/-- The offers that are not refused, in order, for a registry to begin with. -/
def accepted (r : Registry) : List RuleDefinition → List RuleDefinition
  | [] => []
  | d :: rest =>
    match r.register d with
    | .ok added => d :: accepted added.value rest
    | .error _ => accepted r rest

theorem get?_added (r : Registry) (d : RuleDefinition) (i : String) :
    (⟨r.definitions ++ [d]⟩ : Registry).get? i =
      (r.get? i).or (if d.identifier == i then some d else none) := by
  rw [get?, List.find?_append, List.find?_singleton]
  rfl

/-- Who holds an identifier after some offers: who held it before them or, if nobody did, the first that
was accepted under it. -/
theorem get?_foldl_offer (offers : List RuleDefinition) (r : Registry) (i : String) :
    (offers.foldl offer r).get? i =
      (r.get? i).or ((r.accepted offers).find? (·.identifier == i)) := by
  induction offers generalizing r with
  | nil => simp [accepted]
  | cons d offers ih =>
    rw [List.foldl_cons, ih]
    rcases r.register_cases d with ⟨-, h⟩ | ⟨-, -, h⟩ | ⟨-, holder, hget, ⟨-, h⟩ | ⟨-, h⟩⟩
    · simp only [offer, accepted, h]
    · simp only [offer, accepted, h, get?_added, List.find?_cons, Option.or_assoc]
      cases d.identifier == i with
      | false => rfl
      | true => rfl
    · -- a repetition is accepted, but its identifier is held already
      simp only [offer, accepted, h, List.find?_cons]
      cases hi : d.identifier == i with
      | false => rfl
      | true => rw [← beq_iff_eq.mp hi, hget, Option.some_or, Option.some_or]
    · simp only [offer, accepted, h]

theorem get?_afterOffers (offers : List RuleDefinition) (i : String) :
    (afterOffers offers).get? i = (empty.accepted offers).find? (·.identifier == i) :=
  get?_foldl_offer offers empty i

/-- What is held stays held by the same definition. -/
theorem get?_afterOffers_append {offers : List RuleDefinition}
    (h : (afterOffers offers).get? i = some d) (more : List RuleDefinition) :
    (afterOffers (offers ++ more)).get? i = some d := by
  have hmore := get?_foldl_offer more (afterOffers offers) i
  rw [h, Option.some_or] at hmore
  rw [afterOffers, List.foldl_append]
  exact hmore

theorem contains_offer :
    (r.offer d).contains i = true ↔ r.contains i = true ∨ i ≠ "" ∧ d.identifier = i := by
  unfold offer
  rcases r.register_cases d with ⟨hempty, h⟩ | ⟨hnamed, -, h⟩ | ⟨-, holder, hget, hcase⟩
  · rw [h]
    constructor
    · exact Or.inl
    · rintro (hknown | ⟨hi, rfl⟩)
      · exact hknown
      · exact absurd hempty hi
  · simp only [h, contains_iff, List.map_append, List.mem_append, List.map_singleton,
      List.mem_singleton]
    constructor
    · rintro (hknown | rfl)
      · exact Or.inl hknown
      · exact Or.inr ⟨hnamed, rfl⟩
    · rintro (hknown | ⟨-, rfl⟩)
      · exact Or.inl hknown
      · exact Or.inr rfl
  · have hheld : r.contains d.identifier = true := contains_iff_get?.mpr ⟨holder, hget⟩
    have hsame : r.contains i = true ↔ r.contains i = true ∨ i ≠ "" ∧ d.identifier = i := by
      constructor
      · exact Or.inl
      · rintro (hknown | ⟨-, rfl⟩)
        · exact hknown
        · exact hheld
    rcases hcase with ⟨-, h⟩ | ⟨-, h⟩
    · rw [h]
      exact hsame
    · rw [h]
      exact hsame

/-- The identifiers that are known are those that were offered, the empty one apart. -/
theorem contains_afterOffers (offers : List RuleDefinition) (i : String) :
    (afterOffers offers).contains i = true ↔
      i ≠ "" ∧ i ∈ offers.map RuleDefinition.identifier := by
  have hall : ∀ r : Registry, (offers.foldl offer r).contains i = true ↔
      r.contains i = true ∨ i ≠ "" ∧ i ∈ offers.map RuleDefinition.identifier := by
    induction offers with
    | nil => simp
    | cons d offers ih =>
      intro r
      rw [List.foldl_cons, ih, contains_offer, List.map_cons, List.mem_cons, or_assoc, ← and_or_left,
        @eq_comm _ d.identifier]
  have hnone : empty.contains i = false := rfl
  rw [afterOffers, hall, hnone]
  simp

theorem size_afterOffers (offers : List RuleDefinition) :
    (afterOffers offers).size =
      ((offers.map RuleDefinition.identifier).filter (· ≠ "")).dedup.length := by
  have hperm : ((afterOffers offers).definitions.map RuleDefinition.identifier).Perm
      ((offers.map RuleDefinition.identifier).filter (· ≠ "")).dedup := by
    rw [List.perm_ext_iff_of_nodup (consistent_afterOffers offers).distinct (List.nodup_dedup _)]
    intro i
    rw [← contains_iff, contains_afterOffers, List.mem_dedup, List.mem_filter, and_comm,
      decide_eq_true_eq]
  rw [size, ← List.length_map, hperm.length_eq]

/-- What can be asked of a registry, compared with the offers that it has seen. -/
structure Reflects (offers : List RuleDefinition) (r : Registry) : Prop extends Consistent r where
  first : ∀ i, r.get? i = (empty.accepted offers).find? (·.identifier == i)
  own : ∀ i d, r.get? i = some d → d.identifier = i
  increasing : r.identifiers.Pairwise (· < ·)
  rules : r.rules.map some = r.identifiers.map r.get?
  allInfo : r.allInfo.map some = r.identifiers.map r.info?
  size : r.size = ((offers.map RuleDefinition.identifier).filter (· ≠ "")).dedup.length
  listed : ∀ i, i ∈ r.identifiers ↔ r.contains i = true
  got : ∀ i, (r.get? i).isSome = r.contains i
  created : ∀ i settings, (r.create i settings).isSome = r.contains i
  described : ∀ i, (r.info? i).isSome = r.contains i

theorem reflects_afterOffers (offers : List RuleDefinition) :
    (afterOffers offers).Reflects offers where
  toConsistent := consistent_afterOffers offers
  first := get?_afterOffers offers
  own _ _ := identifier_of_get?
  increasing := (consistent_afterOffers offers).identifiers_increasing
  rules := map_some_filterMap fun _ => id
  allInfo := map_some_filterMap fun _ hi => by rwa [info?, Option.isSome_map]
  size := size_afterOffers offers
  listed _ := mem_identifiers
  got _ := rfl
  created _ _ := Option.isSome_map
  described _ := Option.isSome_map

/-- **A registry reflects its offers**, whatever they were and in whatever order they came.

1. All queries agree with each other and with the offers so far (`Reflects`).
2. The next offer is refused exactly when its identifier is empty or held by another definition.
3. An offer that is refused leaves the registry as it is.
4. A definition that holds an identifier holds it after all further offers. -/
theorem registry_reflects_offers (offers : List RuleDefinition) (d : RuleDefinition) :
    let r := afterOffers offers
    r.Reflects offers ∧
      ((∃ e, r.register d = .error e) ↔
        d.identifier = "" ∨
          ∃ holder, r.get? d.identifier = some holder ∧ holder.serial ≠ d.serial) ∧
      ((∃ e, r.register d = .error e) → afterOffers (offers ++ [d]) = r) ∧
      (∀ i holder, r.get? i = some holder →
        ∀ more, (afterOffers (offers ++ more)).get? i = some holder) := by
  intro r
  refine ⟨reflects_afterOffers offers, register_refused_iff, ?_, ?_⟩
  · intro hrefused
    rw [afterOffers, List.foldl_append]
    exact offer_of_refused hrefused
  · intro i holder hholder more
    exact get?_afterOffers_append hholder more

def rivalDefinition : RuleDefinition :=
  { PublicImport.definition with serial := 1, label := "RivalImportRule" }

def namelessDefinition : RuleDefinition :=
  { PublicImport.definition with serial := 2, info := { PublicImport.info with identifier := "" } }

/-- After a definition, a definition without a name and a repetition, a rival is refused, and changes
nothing now or later. -/
theorem registry_reflects_offers_sample :
    let offers := [PublicImport.definition, namelessDefinition, PublicImport.definition]
    let r := afterOffers offers
    r.Reflects offers ∧ r.size = 1 ∧ (∃ e, r.register rivalDefinition = .error e) ∧
      afterOffers (offers ++ [rivalDefinition]) = r ∧
      (afterOffers (offers ++ [rivalDefinition, namelessDefinition])).get?
        "library-design.public-import" = some PublicImport.definition := by
  intro offers r
  have hreflects := registry_reflects_offers offers rivalDefinition
  have hholder : r.get? "library-design.public-import" = some PublicImport.definition := rfl
  have hrefused : ∃ e, r.register rivalDefinition = .error e :=
    hreflects.2.1.mpr (Or.inr ⟨PublicImport.definition, hholder, by decide⟩)
  exact ⟨hreflects.1, rfl, hrefused, hreflects.2.2.1 hrefused, hreflects.2.2.2 _ _ hholder _⟩

end TreeLint.Registry
