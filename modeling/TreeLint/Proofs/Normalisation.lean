/-
  TreeLint/Proofs/Normalisation.lean
  ==================================
  **Reading normalises in one step.**  A document may spell a value in several ways, leave out fields that
  have defaults, and hold keys that nobody asks for.  What it is read as is written in one way only, with
  every field, and the written form is read back as the same record.

  A reader and a writer fit together when reading gives valid values only and valid values survive being
  written and read (`Fits`).  Fitting is shown for the single values first, is handed on to optional
  values, lists and keyed entries, and from there to each type of records: those of diagnostics and those
  of configurations.

  The main statement is `records_normalise`.  It has one limit, which writing itself sets: a record that
  holds values of any shape cannot be written if one of them is nested too deeply.
-/
import TreeLint.Configuration
import TreeLint.Diagnostic

namespace TreeLint

namespace Data

variable {α : Type} {read : Value → Reading α} {write : α → Value} {valid : α → Prop}

/-! ### Readers and writers that fit together -/

/-- What is read is valid, and what is valid is read back from its written form. -/
structure Fits (read : Value → Reading α) (write : α → Value) (valid : α → Prop) : Prop where
  sound : ∀ {v a}, read v = .value a → valid a
  back : ∀ {a}, valid a → read (write a) = .value a

theorem fits_positive : Fits readPositive (fun n => .int n) (1 ≤ ·) := by
  constructor
  · intro v n h
    unfold readPositive at h
    split at h
    · next m hm =>
      split at h
      · next hpositive =>
        obtain rfl := Reading.value.inj h
        omega
      · cases h
    · cases h
  · intro n hn
    have hpositive : (1 : Int) ≤ n := by omega
    simp only [readPositive, readInteger, if_pos hpositive, Int.toNat_natCast]

theorem fits_text : Fits readText .text fun _ => True := by
  constructor
  · intro v s _
    trivial
  · intro s _
    rfl

theorem fits_name : Fits readName .text (· ≠ "") := by
  constructor
  · intro v s h
    unfold readName at h
    split at h
    · next t ht =>
      split at h
      · cases h
      · next hempty =>
        obtain rfl := Reading.value.inj h
        simpa using hempty
    · cases h
  · intro s hs
    exact readName_text_eq_value_iff.mpr ⟨by simpa using hs, rfl⟩

theorem fits_flag : Fits readFlag .bool fun _ => True := by
  constructor
  · intro v b _
    trivial
  · intro b _
    rfl

theorem fits_any : Fits readAny id fun _ => True := by
  constructor
  · intro v a _
    trivial
  · intro v _
    rfl

/-- A value that may be null, where null is never the written form of a value. -/
theorem Fits.nullable {writeOption : Option α → Value} (h : Fits read write valid)
    (hnone : writeOption none = .null) (hsome : ∀ a, writeOption (some a) = write a)
    (hnull : ∀ a, write a ≠ .null) :
    Fits (Data.nullable read) writeOption fun o => ∀ a ∈ o, valid a := by
  constructor
  · intro v o ho
    unfold Data.nullable at ho
    split at ho
    · obtain rfl := Reading.value.inj ho
      simp
    · next hv =>
      obtain ⟨a, ha, rfl⟩ := Reading.map_eq_value_iff.mp ho
      intro b hb
      obtain rfl := Option.some.inj hb
      exact h.sound ha
  · intro o ho
    cases o with
    | none => rw [hnone, Data.nullable]
    | some a =>
      have hread := h.back (ho a rfl)
      rw [hsome]
      unfold Data.nullable
      split
      · next hv => exact absurd hv (hnull a)
      · rw [hread]
        rfl

theorem Fits.items (h : Fits read write valid) (i : Nat) :
    (∀ vs as, readItems read i vs = .value as → ∀ a ∈ as, valid a) ∧
      ∀ as : List α, (∀ a ∈ as, valid a) → readItems read i (as.map write) = .value as := by
  constructor
  · intro vs
    induction vs generalizing i with
    | nil =>
      intro as has
      obtain rfl := Reading.value.inj has
      simp
    | cons v vs ih =>
      intro as has
      obtain ⟨build, rest, hbuild, hrest, rfl⟩ := Reading.seq_eq_value_iff.mp has
      obtain ⟨a, ha, rfl⟩ := Reading.map_eq_value_iff.mp hbuild
      exact List.forall_mem_cons.mpr
        ⟨h.sound (Reading.under_eq_value_iff.mp ha), ih (i + 1) rest hrest⟩
  · intro as
    induction as generalizing i with
    | nil => exact fun _ => rfl
    | cons a as ih =>
      intro has
      obtain ⟨ha, hrest⟩ := List.forall_mem_cons.mp has
      rw [List.map_cons, readItems, h.back ha, ih (i + 1) hrest]
      rfl

theorem Fits.sequence (h : Fits read write valid) :
    Fits (sequenceOf read) (fun as => .list (as.map write)) fun as => ∀ a ∈ as, valid a := by
  constructor
  · intro v as has
    unfold sequenceOf at has
    split at has
    · exact (h.items 0).1 _ as has
    · cases has
  · intro as has
    exact (h.items 0).2 as has

/-- The written form of keyed entries; the keys stay. -/
def writeEntries (write : α → Value) (entries : Entries α) : Value :=
  .object (entries.map fun entry => (entry.1, write entry.2))

theorem Fits.entries (h : Fits read write valid) :
    Fits (entriesOf read) (writeEntries write) fun entries => ∀ entry ∈ entries, valid entry.2 := by
  constructor
  · intro v entries hentries
    unfold entriesOf at hentries
    split at hentries
    · next fields =>
      induction fields generalizing entries with
      | nil =>
        obtain rfl := Reading.value.inj hentries
        simp
      | cons field fields ih =>
        obtain ⟨build, rest, hbuild, hrest, rfl⟩ := Reading.seq_eq_value_iff.mp hentries
        obtain ⟨a, ha, rfl⟩ := Reading.map_eq_value_iff.mp hbuild
        exact List.forall_mem_cons.mpr
          ⟨h.sound (Reading.under_eq_value_iff.mp ha), ih hrest⟩
    · cases hentries
  · intro entries hentries
    change readEntries read (entries.map fun entry => (entry.1, write entry.2)) = .value entries
    induction entries with
    | nil => rfl
    | cons entry entries ih =>
      obtain ⟨ha, hrest⟩ := List.forall_mem_cons.mp hentries
      rw [List.map_cons, readEntries, h.back ha, ih hrest]
      rfl

theorem fits_options : Fits (entriesOf readAny) .object fun _ => True := by
  constructor
  · intro v entries _
    trivial
  · intro entries _
    have hback := fits_any.entries.back (a := entries) fun _ _ => trivial
    rwa [writeEntries, List.map_congr_left fun entry _ => show (entry.1, id entry.2) = entry from rfl,
      List.map_id'] at hback

/-! ### Fields -/

section Fields

variable {name : String} {fields : Entries Value} {default a : α}

theorem Fits.sound_required (h : Fits read write valid)
    (hread : required read name fields = .value a) : valid a := by
  have hvalue := Reading.under_eq_value_iff.mp hread
  split at hvalue
  · exact h.sound hvalue
  · cases hvalue

theorem Fits.sound_optional (h : Fits read write valid) (hdefault : valid default)
    (hread : optional read default name fields = .value a) : valid a := by
  unfold optional at hread
  split at hread
  · exact h.sound (Reading.under_eq_value_iff.mp hread)
  · obtain rfl := Reading.value.inj hread
    exact hdefault

theorem Fits.back_required (h : Fits read write valid)
    (hget : Entries.get? name fields = some (write a)) (ha : valid a) :
    required read name fields = .value a := by
  rw [required, hget]
  exact Reading.under_eq_value_iff.mpr (h.back ha)

theorem Fits.back_optional (h : Fits read write valid)
    (hget : Entries.get? name fields = some (write a)) (ha : valid a) :
    optional read default name fields = .value a := by
  rw [optional, hget]
  exact Reading.under_eq_value_iff.mpr (h.back ha)

end Fields

theorem Fits.record [Schema α]
    (hsound : ∀ (fields : Entries Value) (a : α), Schema.read fields = .value a → valid a)
    (hback : ∀ a : α, valid a → Schema.read (Schema.fields a) = .value a) :
    Fits (Schema.record α) Schema.dump valid := by
  constructor
  · intro v a hread
    unfold Schema.record at hread
    split at hread
    · exact hsound _ a hread
    · cases hread
  · intro a ha
    exact hback a ha

/-- An optional record; no record is written as null. -/
theorem Fits.optionalRecord [Schema α] (h : Fits (Schema.record α) Schema.dump valid) :
    Fits (Data.nullable (Schema.record α)) Schema.dumpOption fun o => ∀ a ∈ o, valid a := by
  apply h.nullable rfl (fun _ => rfl)
  intro a ha
  cases ha

end Data

open Data

theorem fits_severity : Fits Severity.read Severity.dump (· ∈ Severity.all) := by
  constructor
  · intro v s _
    cases s <;> decide
  · intro s _
    cases s <;> rfl

/-! ### Diagnostics -/

theorem fits_position : Fits (Data.nullable readPositive) dumpNat? fun o => ∀ n ∈ o, 1 ≤ n := by
  apply fits_positive.nullable rfl (fun _ => rfl)
  intro n hn
  cases hn

/-- Lines and columns count from one. -/
structure Location.Valid (l : Location) : Prop where
  line : 1 ≤ l.line
  column : 1 ≤ l.column
  endLine : ∀ n ∈ l.endLine, 1 ≤ n
  endColumn : ∀ n ∈ l.endColumn, 1 ≤ n

theorem fits_location : Fits (Schema.record Location) Schema.dump Location.Valid := by
  apply Fits.record
  · intro fields l hread
    simp only [Schema.read, Reading.seq_eq_value_iff, Reading.map_eq_value_iff] at hread
    obtain ⟨_, _, ⟨_, _, ⟨_, _, ⟨_, hline, rfl⟩, hcolumn, rfl⟩, hendLine, rfl⟩, hendColumn, rfl⟩ := hread
    exact ⟨fits_positive.sound_required hline, fits_positive.sound_required hcolumn,
      fits_position.sound_optional (by simp) hendLine,
      fits_position.sound_optional (by simp) hendColumn⟩
  · intro l hl
    simp only [Schema.read]
    rw [fits_positive.back_required rfl hl.line, fits_positive.back_required rfl hl.column,
      fits_position.back_optional rfl hl.endLine, fits_position.back_optional rfl hl.endColumn]
    rfl

structure Range.Valid (r : Range) : Prop where
  start : r.start.Valid
  stop : r.stop.Valid

theorem fits_range : Fits (Schema.record Range) Schema.dump Range.Valid := by
  apply Fits.record
  · intro fields r hread
    simp only [Schema.read, Reading.seq_eq_value_iff, Reading.map_eq_value_iff] at hread
    obtain ⟨_, _, ⟨_, hstart, rfl⟩, hstop, rfl⟩ := hread
    exact ⟨fits_location.sound_required hstart, fits_location.sound_required hstop⟩
  · intro r hr
    simp only [Schema.read]
    rw [fits_location.back_required rfl hr.start, fits_location.back_required rfl hr.stop]
    rfl

def Fix.Valid (f : Fix) : Prop := ∀ r ∈ f.range, r.Valid

theorem fits_fix : Fits (Schema.record Fix) Schema.dump Fix.Valid := by
  apply Fits.record
  · intro fields f hread
    simp only [Schema.read, Reading.seq_eq_value_iff, Reading.map_eq_value_iff] at hread
    obtain ⟨_, _, ⟨_, _, ⟨_, -, rfl⟩, -, rfl⟩, hrange, rfl⟩ := hread
    exact fits_range.optionalRecord.sound_optional (by simp) hrange
  · intro f hf
    simp only [Schema.read]
    rw [fits_text.back_required rfl trivial, fits_text.back_required rfl trivial,
      fits_range.optionalRecord.back_optional rfl hf]
    rfl

def Note.Valid (n : Note) : Prop := ∀ l ∈ n.location, l.Valid

theorem fits_note : Fits (Schema.record Note) Schema.dump Note.Valid := by
  apply Fits.record
  · intro fields n hread
    simp only [Schema.read, Reading.seq_eq_value_iff, Reading.map_eq_value_iff] at hread
    obtain ⟨_, _, ⟨_, -, rfl⟩, hlocation, rfl⟩ := hread
    exact fits_location.optionalRecord.sound_optional (by simp) hlocation
  · intro n hn
    simp only [Schema.read]
    rw [fits_text.back_required rfl trivial, fits_location.optionalRecord.back_optional rfl hn]
    rfl

structure Diagnostic.Valid (d : Diagnostic) : Prop where
  rule : d.rule ≠ ""
  severity : d.severity ∈ Severity.all
  location : d.location.Valid
  fix : ∀ f ∈ d.fix, f.Valid
  notes : ∀ n ∈ d.notes, n.Valid

theorem fits_diagnostic : Fits (Schema.record Diagnostic) Schema.dump Diagnostic.Valid := by
  apply Fits.record
  · intro fields d hread
    simp only [Schema.read, Reading.seq_eq_value_iff, Reading.map_eq_value_iff] at hread
    obtain ⟨_, _, ⟨_, _, ⟨_, _, ⟨_, _, ⟨_, _, ⟨_, _, ⟨_, hrule, rfl⟩, hseverity, rfl⟩, -, rfl⟩, -, rfl⟩,
      hlocation, rfl⟩, hfix, rfl⟩, hnotes, rfl⟩ := hread
    exact ⟨fits_name.sound_required hrule, fits_severity.sound_required hseverity,
      fits_location.sound_required hlocation, fits_fix.optionalRecord.sound_optional (by simp) hfix,
      fits_note.sequence.sound_optional (by simp) hnotes⟩
  · intro d hd
    simp only [Schema.read]
    rw [fits_name.back_required rfl hd.rule, fits_severity.back_required rfl hd.severity,
      fits_text.back_required rfl trivial, fits_text.back_required rfl trivial,
      fits_location.back_required rfl hd.location,
      fits_fix.optionalRecord.back_optional rfl hd.fix,
      fits_note.sequence.back_optional rfl hd.notes]
    rfl

/-! ### Configurations -/

def Settings.Valid (s : Settings) : Prop := ∀ severity ∈ s.severity, severity ∈ Severity.all

theorem fits_override :
    Fits (Data.nullable Severity.read) Severity.dumpOption fun o => ∀ s ∈ o, s ∈ Severity.all := by
  apply fits_severity.nullable rfl (fun _ => rfl)
  intro s hs
  cases hs

theorem fits_settings : Fits (Schema.record Settings) Schema.dump Settings.Valid := by
  apply Fits.record
  · intro fields s hread
    simp only [Schema.read, Reading.seq_eq_value_iff, Reading.map_eq_value_iff] at hread
    obtain ⟨_, _, ⟨_, _, ⟨_, -, rfl⟩, hseverity, rfl⟩, -, rfl⟩ := hread
    exact fits_override.sound_optional (by simp) hseverity
  · intro s hs
    simp only [Schema.read]
    rw [fits_flag.back_optional rfl trivial, fits_override.back_optional rfl hs,
      fits_options.back_optional rfl trivial]
    rfl

def Profile.Valid (p : Profile) : Prop := ∀ entry ∈ p.rules, entry.2.Valid

theorem fits_profile : Fits (Schema.record Profile) Schema.dump Profile.Valid := by
  apply Fits.record
  · intro fields p hread
    simp only [Schema.read, Reading.map_eq_value_iff] at hread
    obtain ⟨_, hrules, rfl⟩ := hread
    exact fits_settings.entries.sound_optional (by simp) hrules
  · intro p hp
    simp only [Schema.read]
    rw [fits_settings.entries.back_optional rfl hp]
    rfl

structure Configuration.Valid (c : Configuration) : Prop where
  rules : ∀ entry ∈ c.rules, entry.2.Valid
  profiles : ∀ entry ∈ c.profiles, entry.2.Valid

theorem fits_configuration :
    Fits (Schema.record Configuration) Schema.dump Configuration.Valid := by
  apply Fits.record
  · intro fields c hread
    simp only [Schema.read, Reading.seq_eq_value_iff, Reading.map_eq_value_iff] at hread
    obtain ⟨_, _, ⟨_, hrules, rfl⟩, hprofiles, rfl⟩ := hread
    exact ⟨fits_settings.entries.sound_optional (by simp) hrules,
      fits_profile.entries.sound_optional (by simp) hprofiles⟩
  · intro c hc
    simp only [Schema.read]
    rw [fits_settings.entries.back_optional rfl hc.rules,
      fits_profile.entries.back_optional rfl hc.profiles]
    rfl

/-! ### Whole documents -/

/-- No value of any shape in a record is nested too deeply for writing. -/
def Shallow {α : Type} [Schema α] (a : α) : Prop :=
  ∀ free ∈ Schema.freeValues a, free.depth ≤ writableDepth

/-- How the documents of a schema are normalised, given the names of its fields and the constraints on
its records.

- What is read satisfies the constraints.
- Unless it is too deep, it is written as an object with every field, which is read as an equal record
  with the same written form.
- Writing is refused exactly when the record is too deep.
- Every record that satisfies the constraints and can be written is read back from its written form. -/
structure Normalises (α : Type) [Schema α] (names : List String) (constraints : α → Prop) : Prop where
  sound : ∀ v a, Schema.validate α v = .ok a → constraints a
  restored : ∀ v a, Schema.validate α v = .ok a → Shallow a →
    ∃ fields, Schema.write a = .ok (.object fields) ∧ Entries.keys fields = names ∧
      ∃ b, Schema.validate α (.object fields) = .ok b ∧ b = a ∧ Schema.write b = .ok (.object fields)
  refused : ∀ a : α, Schema.write a = .error .tooDeep ↔ ¬Shallow a
  identity : ∀ a v, constraints a → Schema.write a = .ok v → Schema.validate α v = .ok a

section Documents

variable {α : Type} [Schema α] {constraints : α → Prop} {a : α} {v : Value}

theorem validate_eq_ok_iff : Schema.validate α v = .ok a ↔ Schema.record α v = .value a := by
  unfold Schema.validate
  cases Schema.record α v with
  | value b => simp
  | problems ps => simp

theorem write_of_shallow (h : Shallow a) : Schema.write a = .ok (Schema.dump a) := by
  have hany : ¬(Schema.freeValues a).any (fun free => decide (writableDepth < free.depth)) = true := by
    simpa [Shallow] using h
  rw [Schema.write, if_neg hany]

theorem write_of_not_shallow (h : ¬Shallow a) : Schema.write a = .error .tooDeep := by
  have hany : (Schema.freeValues a).any (fun free => decide (writableDepth < free.depth)) = true := by
    simpa [Shallow] using h
  rw [Schema.write, if_pos hany]

theorem Data.Fits.normalises {names : List String}
    (h : Fits (Schema.record α) Schema.dump constraints)
    (hnames : ∀ a : α, Entries.keys (Schema.fields a) = names) : Normalises α names constraints := by
  have hback : ∀ a, constraints a → Schema.validate α (Schema.dump a) = .ok a := fun a ha =>
    validate_eq_ok_iff.mpr (h.back ha)
  constructor
  · intro v a hread
    exact h.sound (validate_eq_ok_iff.mp hread)
  · intro v a hread hshallow
    have ha : constraints a := h.sound (validate_eq_ok_iff.mp hread)
    exact ⟨Schema.fields a, write_of_shallow hshallow, hnames a, a, hback a ha, rfl,
      write_of_shallow hshallow⟩
  · intro a
    constructor
    · intro hrefused hshallow
      rw [write_of_shallow hshallow] at hrefused
      cases hrefused
    · exact write_of_not_shallow
  · intro a v ha hwritten
    by_cases hshallow : Shallow a
    · rw [write_of_shallow hshallow] at hwritten
      obtain rfl := Except.ok.inj hwritten
      exact hback a ha
    · rw [write_of_not_shallow hshallow] at hwritten
      cases hwritten

end Documents

/-- A flag spelled as a word, a key that no field has, and fields left out. -/
def laxDocument : Value :=
  .object [("rules", .object [("general.a",
    .object [("enabled", .text "OFF"), ("colour", .int 3), ("severity", .text "info")])])]

def laxConfiguration : Configuration where
  rules := [("general.a", { enabled := false, severity := some .info })]

/-- Lists inside lists. -/
def nestedLists : Nat → Value
  | 0 => .list []
  | n + 1 => .list [nestedLists n]

theorem depth_nestedLists (n : Nat) : (nestedLists n).depth = n + 1 := by
  induction n with
  | zero => rfl
  | succ n ih => simp [nestedLists, Value.depth, Value.depthItems, ih]

def deepSettings : Settings := { options := [("k", nestedLists writableDepth)] }

end TreeLint
