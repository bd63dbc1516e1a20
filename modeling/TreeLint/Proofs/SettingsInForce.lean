/-
  TreeLint/Proofs/SettingsInForce.lean
  ====================================
  **Which settings are in force.**  Settings have two layers: the base, and an entry of a profile laid over
  it.  The parts of the upper layer count in three ways.  It can switch a rule off and never on, it gives
  the severity where it has one, and its options win over those below, which keep their order.

  Options are keyed entries, and laying entries over others is setting one key after the other.  So it is
  told by what setting one key does to look-ups and to the order of keys (`get?_set`, `keys_set`), and by
  induction what setting many does (`get?_overlay`, `keys_overlay`).  Entries that are there already change
  nothing (`overlay_eq_self`), and this is why settings can be laid over others twice.

  All this is about entries with one value for each key (`Configuration.Keyed`).  The main statement is
  `settingsFor_resolves`.
-/
import Mathlib.Data.List.Nodup
import TreeLint.Configuration

namespace TreeLint

namespace Data.Entries

variable {α : Type} {key : String} {value : α} {base upper entries : Entries α}

/-! ### One key -/

theorem get?_eq_none_iff : get? key entries = none ↔ key ∉ keys entries := by
  induction entries with
  | nil => simp [get?, keys]
  | cons entry entries ih =>
    obtain ⟨k, v⟩ := entry
    by_cases hk : k = key
    · simp [get?, keys, hk]
    · simpa [get?, keys, hk, Ne.symm hk] using ih

theorem get?_set (key other : String) (value : α) (entries : Entries α) :
    get? other (set key value entries) = if other = key then some value else get? other entries := by
  induction entries with
  | nil =>
    by_cases hother : other = key
    · simp [set, get?, hother]
    · simp [set, get?, hother, Ne.symm hother]
  | cons entry entries ih =>
    obtain ⟨k, v⟩ := entry
    by_cases hk : k = key
    · subst hk
      by_cases hother : other = k
      · simp [set, get?, hother]
      · simp [set, get?, hother, Ne.symm hother]
    · rw [set, if_neg hk, get?, get?, ih]
      by_cases hother : k = other
      · subst hother
        simp [hk]
      · simp [hother]

theorem keys_set (key : String) (value : α) (entries : Entries α) :
    keys (set key value entries) =
      if key ∈ keys entries then keys entries else keys entries ++ [key] := by
  induction entries with
  | nil => rfl
  | cons entry entries ih =>
    obtain ⟨k, v⟩ := entry
    by_cases hk : k = key
    · simp [set, keys, hk]
    · have hcons : keys (set key value ((k, v) :: entries)) = k :: keys (set key value entries) := by
        rw [set, if_neg hk]
        rfl
      rw [hcons, ih]
      by_cases hmem : key ∈ keys entries
      · simp_all [keys]
      · simp_all [keys, Ne.symm hk]

theorem set_of_get? (h : get? key entries = some value) : set key value entries = entries := by
  induction entries with
  | nil => cases h
  | cons entry entries ih =>
    obtain ⟨k, v⟩ := entry
    rw [get?] at h
    by_cases hk : k = key
    · rw [if_pos hk] at h
      rw [set, if_pos hk, Option.some.inj h, hk]
    · rw [if_neg hk] at h
      rw [set, if_neg hk, ih h]

theorem get?_of_mem (hkeys : (keys entries).Nodup) (h : (key, value) ∈ entries) :
    get? key entries = some value := by
  induction entries with
  | nil => cases h
  | cons entry entries ih =>
    obtain ⟨k, v⟩ := entry
    obtain ⟨hk, hrest⟩ := List.nodup_cons.mp hkeys
    rw [get?]
    rcases List.mem_cons.mp h with heq | hmem
    · obtain ⟨rfl, rfl⟩ := Prod.mk.inj heq
      rw [if_pos rfl]
    · have hne : k ≠ key := by
        rintro rfl
        exact hk (List.mem_map.mpr ⟨_, hmem, rfl⟩)
      rw [if_neg hne, ih hrest hmem]

theorem mem_of_get? (h : get? key entries = some value) : (key, value) ∈ entries := by
  induction entries with
  | nil => cases h
  | cons entry entries ih =>
    obtain ⟨k, v⟩ := entry
    rw [get?] at h
    by_cases hk : k = key
    · rw [if_pos hk] at h
      rw [← hk, ← Option.some.inj h]
      exact List.mem_cons_self
    · rw [if_neg hk] at h
      exact List.mem_cons_of_mem _ (ih h)

/-! ### Many keys -/

theorem overlay_cons (base : Entries α) (key : String) (value : α) (upper : Entries α) :
    overlay base ((key, value) :: upper) = overlay (set key value base) upper := rfl

theorem get?_overlay (hkeys : (keys upper).Nodup) (base : Entries α) (key : String) :
    get? key (overlay base upper) = (get? key upper).or (get? key base) := by
  induction upper generalizing base with
  | nil => rfl
  | cons entry upper ih =>
    obtain ⟨k, v⟩ := entry
    obtain ⟨hk, hrest⟩ := List.nodup_cons.mp hkeys
    rw [overlay_cons, ih hrest, get?_set, get?]
    by_cases hkey : key = k
    · subst hkey
      rw [get?_eq_none_iff.mpr hk, if_pos rfl, if_pos rfl]
      rfl
    · rw [if_neg hkey, if_neg (Ne.symm hkey)]

/-- The lower keys stay in their order, and the new keys follow in theirs. -/
theorem keys_overlay (hkeys : (keys upper).Nodup) (base : Entries α) :
    keys (overlay base upper) = keys base ++ (keys upper).filter (· ∉ keys base) := by
  induction upper generalizing base with
  | nil => exact (List.append_nil _).symm
  | cons entry upper ih =>
    obtain ⟨k, v⟩ := entry
    obtain ⟨hk, hrest⟩ := List.nodup_cons.mp hkeys
    have hcons : keys ((k, v) :: upper) = k :: keys upper := rfl
    rw [overlay_cons, ih hrest, keys_set, hcons]
    by_cases hmem : k ∈ keys base
    · rw [if_pos hmem, List.filter_cons_of_neg (by simpa using hmem)]
    · -- the new key is none of those that follow
      have hothers : (keys upper).filter (· ∉ keys base ++ [k]) =
          (keys upper).filter (· ∉ keys base) := by
        apply List.filter_congr
        intro other hother
        have hne : other ≠ k := fun heq => hk (heq ▸ hother)
        simp [hne]
      rw [if_neg hmem, hothers, List.filter_cons_of_pos (by simpa using hmem), List.append_assoc,
        List.singleton_append]

theorem overlay_eq_self (h : ∀ entry ∈ upper, get? entry.1 entries = some entry.2) :
    overlay entries upper = entries := by
  induction upper with
  | nil => rfl
  | cons entry upper ih =>
    obtain ⟨hentry, hrest⟩ := List.forall_mem_cons.mp h
    rw [overlay_cons, set_of_get? hentry, ih hrest]

theorem overlay_overlay (hkeys : (keys upper).Nodup) (base : Entries α) :
    overlay (overlay base upper) upper = overlay base upper := by
  apply overlay_eq_self
  rintro ⟨key, value⟩ hentry
  rw [get?_overlay hkeys, get?_of_mem hkeys hentry]
  rfl

end Data.Entries

open Data

/-! ### Layers of settings -/

/-- Each option is set once. -/
def Settings.Keyed (s : Settings) : Prop := (Entries.keys s.options).Nodup

/-- Each rule has one entry. -/
structure Profile.Keyed (p : Profile) : Prop where
  rules : (Entries.keys p.rules).Nodup
  settings : ∀ entry ∈ p.rules, entry.2.Keyed

/-- Each rule and each profile has one entry. -/
structure Configuration.Keyed (c : Configuration) : Prop where
  rules : (Entries.keys c.rules).Nodup
  settings : ∀ entry ∈ c.rules, entry.2.Keyed
  profiles : (Entries.keys c.profiles).Nodup
  overlays : ∀ entry ∈ c.profiles, entry.2.Keyed

instance (s : Settings) : Decidable s.Keyed :=
  inferInstanceAs (Decidable (Entries.keys s.options).Nodup)

instance (p : Profile) : Decidable p.Keyed :=
  decidable_of_iff ((Entries.keys p.rules).Nodup ∧ ∀ entry ∈ p.rules, entry.2.Keyed)
    ⟨fun h => ⟨h.1, h.2⟩, fun h => ⟨h.rules, h.settings⟩⟩

instance (c : Configuration) : Decidable c.Keyed :=
  decidable_of_iff
    ((Entries.keys c.rules).Nodup ∧ (∀ entry ∈ c.rules, entry.2.Keyed) ∧
      (Entries.keys c.profiles).Nodup ∧ ∀ entry ∈ c.profiles, entry.2.Keyed)
    ⟨fun h => ⟨h.1, h.2.1, h.2.2.1, h.2.2.2⟩,
      fun h => ⟨h.rules, h.settings, h.profiles, h.overlays⟩⟩

/-- What settings are when others are laid over them: on if both are on, with the upper severity if there
is one, and with all options, each with its upper value if it has one, the lower ones first. -/
structure Settings.LaidOver (base upper result : Settings) : Prop where
  enabled : result.enabled = true ↔ base.enabled = true ∧ upper.enabled = true
  replaced : ∀ severity, upper.severity = some severity → result.severity = some severity
  inherited : upper.severity = none → result.severity = base.severity
  options : ∀ key, Entries.get? key result.options =
    (Entries.get? key upper.options).or (Entries.get? key base.options)
  order : Entries.keys result.options =
    Entries.keys base.options ++ (Entries.keys upper.options).filter (· ∉ Entries.keys base.options)

namespace Settings

variable {base upper : Settings}

theorem laidOver_overlay (hupper : upper.Keyed) (base : Settings) :
    base.LaidOver upper (base.overlay upper) where
  enabled := Bool.and_eq_true_iff
  replaced severity hseverity := by rw [overlay, hseverity, Option.some_or]
  inherited hseverity := by rw [overlay, hseverity, Option.none_or]
  options key := Entries.get?_overlay hupper base.options key
  order := Entries.keys_overlay hupper base.options

theorem overlay_overlay (hupper : upper.Keyed) (base : Settings) :
    (base.overlay upper).overlay upper = base.overlay upper := by
  have hseverity : upper.severity.or (upper.severity.or base.severity) =
      upper.severity.or base.severity := by
    cases upper.severity with
    | none => rfl
    | some severity => rfl
  simp only [overlay, Bool.and_assoc, Bool.and_self, hseverity, Entries.overlay_overlay hupper]

end Settings

namespace Configuration

variable {c d : Configuration} {identifier : String} {profile : Option String} {upper : Settings}

/-! ### Two layers and a warning -/

/-- What a profile lays over the base settings of a rule: nothing without a profile, with one that does not
exist, and with one that has no entry for the rule. -/
def layer (c : Configuration) (identifier : String) (profile : Option String) : Option Settings := do
  let name ← profile
  let p ← Entries.get? name c.profiles
  Entries.get? identifier p.rules

/-- What is recorded about a profile: that it does not exist. -/
def warnings (c : Configuration) : Option String → List Record
  | none => []
  | some name =>
    if (Entries.get? name c.profiles).isSome then []
    else [⟨.warning, .configuration,
      "Unknown profile " ++ Text.quoted name ++ "; using base configuration"⟩]

/-- The settings in force are the base, with the layer of the profile over it if there is one. -/
theorem settingsFor_eq (c : Configuration) (identifier : String) (profile : Option String) :
    c.settingsFor identifier profile =
      ⟨(c.layer identifier profile).elim (c.baseSettings identifier)
        (c.baseSettings identifier).overlay, c.warnings profile⟩ := by
  unfold settingsFor layer warnings
  cases profile with
  | none => rfl
  | some name =>
    simp only [Option.bind_eq_bind, Option.bind_some]
    cases Entries.get? name c.profiles with
    | none => rfl
    | some p =>
      simp only [Option.bind_some]
      cases Entries.get? identifier p.rules with
      | none => rfl
      | some upper => rfl

theorem Keyed.of_layer (h : c.Keyed) (hlayer : c.layer identifier profile = some upper) :
    upper.Keyed := by
  obtain ⟨name, -, hlayer⟩ := Option.bind_eq_some_iff.mp hlayer
  obtain ⟨p, hname, hentry⟩ := Option.bind_eq_some_iff.mp hlayer
  exact (h.overlays _ (Entries.mem_of_get? hname)).settings _ (Entries.mem_of_get? hentry)

theorem isEnabled_of_base (hoff : c.isEnabled identifier none = false) (profile : Option String) :
    c.isEnabled identifier profile = false := by
  have hbase : (c.baseSettings identifier).enabled = false := hoff
  rw [isEnabled, settingsFor_eq]
  cases c.layer identifier profile with
  | none => exact hbase
  | some upper => simp [Settings.overlay, hbase]

/-! ### What settings depend on -/

/-- Configurations with the same base entry for a rule and, if a profile is asked for, with the same entry
for it in the profile, or none, or no such profile in both. -/
structure AgreeOn (c d : Configuration) (identifier : String) (profile : Option String) : Prop where
  base : Entries.get? identifier c.rules = Entries.get? identifier d.rules
  upper : ∀ name ∈ profile,
    (Entries.get? name c.profiles).map (fun p => Entries.get? identifier p.rules) =
      (Entries.get? name d.profiles).map (fun p => Entries.get? identifier p.rules)

theorem AgreeOn.settingsFor_congr (h : c.AgreeOn d identifier profile) :
    c.settingsFor identifier profile = d.settingsFor identifier profile := by
  have hbase : c.baseSettings identifier = d.baseSettings identifier := by
    rw [baseSettings, baseSettings, h.base]
  have hprofile : c.layer identifier profile = d.layer identifier profile ∧
      c.warnings profile = d.warnings profile := by
    cases profile with
    | none => exact ⟨rfl, rfl⟩
    | some name =>
      have hupper := h.upper name rfl
      simp only [layer, warnings, Option.bind_eq_bind, Option.bind_some]
      constructor
      · have hjoined := congrArg (Option.bind · id) hupper
        simpa only [Option.bind_map, Function.id_comp] using hjoined
      · rw [← Option.isSome_map, hupper, Option.isSome_map]
  rw [settingsFor_eq, settingsFor_eq, hbase, hprofile.1, hprofile.2]

/-- The configuration with other base settings for a rule. -/
def rebase (c : Configuration) (identifier : String) (base : Settings) : Configuration :=
  { c with rules := Entries.set identifier base c.rules }

theorem baseSettings_rebase (c : Configuration) (identifier : String) (base : Settings) :
    (c.rebase identifier base).baseSettings identifier = base := by
  rw [baseSettings, rebase, Entries.get?_set, if_pos rfl, Option.getD_some]

theorem settingsFor_rebase (h : c.Keyed) (identifier : String) (profile : Option String) :
    (c.rebase identifier (c.settingsFor identifier profile).value).settingsFor identifier profile =
      c.settingsFor identifier profile := by
  -- the profiles are the same ones, and so is what they lay over the base
  have hlayer : ∀ base, (c.rebase identifier base).layer identifier profile =
      c.layer identifier profile := fun _ => rfl
  have hwarnings : ∀ base, (c.rebase identifier base).warnings profile = c.warnings profile :=
    fun _ => rfl
  rw [settingsFor_eq (c.rebase identifier _), settingsFor_eq c, hlayer, hwarnings,
    baseSettings_rebase]
  cases hupper : c.layer identifier profile with
  | none => rfl
  | some upper =>
    simp only [Option.elim_some, Settings.overlay_overlay (h.of_layer hupper)]

/-- **Which settings are in force for a rule under a profile**, in every configuration.

1. Without a profile, with one that does not exist and with one that has no entry for the rule, they are
   the base entry, or the default settings if there is none.  One warning is left in the second case, and
   nothing in any other.
2. With an entry they are the base with the entry laid over it.
3. What the base switches off stays off.
4. Nothing counts but the base entry of the rule and its entry in the profile.
5. With the settings in force as base entry, the same settings are in force. -/
theorem settingsFor_resolves (c : Configuration) (hkeyed : c.Keyed) (identifier : String)
    (profile : Option String) :
    let base := (Entries.get? identifier c.rules).getD
      { enabled := true, severity := none, options := [] }
    let result := c.settingsFor identifier profile
    (profile = none → result = ⟨base, []⟩) ∧
    (∀ name, profile = some name → Entries.get? name c.profiles = none →
      result = ⟨base, [⟨.warning, .configuration,
        "Unknown profile " ++ Text.quoted name ++ "; using base configuration"⟩]⟩) ∧
    (∀ name p, profile = some name → Entries.get? name c.profiles = some p →
      Entries.get? identifier p.rules = none → result = ⟨base, []⟩) ∧
    (∀ name p upper, profile = some name → Entries.get? name c.profiles = some p →
      Entries.get? identifier p.rules = some upper →
      base.LaidOver upper result.value ∧ result.records = []) ∧
    (c.isEnabled identifier none = false → c.isEnabled identifier profile = false) ∧
    (∀ d : Configuration, c.AgreeOn d identifier profile →
      d.settingsFor identifier profile = result) ∧
    (c.rebase identifier result.value).settingsFor identifier profile = result := by
  intro base result
  have hresult : result = ⟨(c.layer identifier profile).elim base base.overlay,
    c.warnings profile⟩ := settingsFor_eq c identifier profile
  refine ⟨?_, ?_, ?_, ?_, fun hoff => isEnabled_of_base hoff profile, ?_,
    settingsFor_rebase hkeyed identifier profile⟩
  · rintro rfl
    rfl
  · rintro name rfl hname
    simp [hresult, layer, warnings, hname]
  · rintro name p rfl hname hentry
    simp [hresult, layer, warnings, hname, hentry]
  · rintro name p upper rfl hname hentry
    have hlayer : c.layer identifier (some name) = some upper := by simp [layer, hname, hentry]
    have hupper := Settings.laidOver_overlay (hkeyed.of_layer hlayer) base
    simp only [hresult, hlayer, Option.elim_some]
    exact ⟨hupper, by simp [warnings, hname]⟩
  · intro d hagree
    exact hagree.settingsFor_congr.symm

/-- A base entry with two options and a profile that switches the rule off, raises its severity, changes
one option and adds another. -/
def strictConfiguration : Configuration where
  rules := [("general.a", { severity := some .info, options := [("x", .int 1), ("y", .int 2)] }),
    ("general.b", { enabled := false })]
  profiles := [("ci", ⟨[("general.a",
    { enabled := false, severity := some .error, options := [("z", .int 3), ("y", .int 4)] })]⟩)]

theorem settingsFor_resolves_sample :
    let c := strictConfiguration
    let result := c.settingsFor "general.a" (some "ci")
    c.Keyed ∧ result.value.enabled = false ∧ result.value.severity = some .error ∧
      Entries.keys result.value.options = ["x", "y", "z"] ∧
      Entries.get? "y" result.value.options = some (.int 4) ∧
      (c.rebase "general.a" result.value).settingsFor "general.a" (some "ci") = result := by
  intro c result
  have hkeyed : c.Keyed := by decide +kernel
  obtain ⟨-, -, -, hentry, -, -, hagain⟩ :=
    settingsFor_resolves c hkeyed "general.a" (some "ci")
  obtain ⟨hlaid, -⟩ := hentry "ci" _ _ rfl rfl rfl
  refine ⟨hkeyed, rfl, hlaid.replaced .error rfl, ?_, ?_, hagain⟩
  · rw [hlaid.order]
    decide +kernel
  · rw [hlaid.options]
    rfl

end Configuration

end TreeLint
