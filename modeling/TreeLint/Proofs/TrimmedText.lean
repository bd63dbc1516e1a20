/-
  TreeLint/Proofs/TrimmedText.lean
  ================================
  **What trimming leaves of a text.**  A text is bare when it neither begins nor ends with a blank.  A text
  is trimmed to a bare one, and a bare text is what another is trimmed to exactly when the other is the
  bare text with blanks around it (`trim_eq_iff`).  So nothing but blanks is lost, all of them are at the
  ends, and a text is trimmed to nothing when it is all blank.

  Bare texts can be put together: what comes of it is bare again, also where some of them are empty
  (`Bare.flatMap`).
-/
import Mathlib.Data.List.TakeWhile
import TreeLint.Text.Blank

namespace TreeLint.Text

/-! ### Runs of a class -/

section Runs

variable {α : Type} {p : α → Bool}

theorem head?_dropWhile_eq_false (xs : List α) : ∀ x ∈ (xs.dropWhile p).head?, p x = false := by
  intro x hx
  have hnot := List.head?_dropWhile_not p xs
  rw [hx] at hnot
  exact hnot

/-- A run of a class ends where something else begins. -/
theorem runs_append {w t : List α} (hw : ∀ x ∈ w, p x = true) (ht : ∀ x ∈ t.head?, p x = false) :
    (w ++ t).takeWhile p = w ∧ (w ++ t).dropWhile p = t := by
  rw [List.takeWhile_append_of_pos hw, List.dropWhile_append_of_pos hw]
  cases t with
  | nil => simp
  | cons x t =>
    have hx : p x = false := ht x rfl
    simp [hx]

/-- The run that a text begins with is followed by something that ends it. -/
theorem run_before_iff {w xs : List α} {x : α} (hx : p x = false) :
    (xs.drop (xs.takeWhile p).length).head? = some x ∧ xs.takeWhile p = w ↔
      (∀ y ∈ w, p y = true) ∧ ∃ after, xs = w ++ x :: after := by
  constructor
  · rintro ⟨hhead, rfl⟩
    obtain ⟨after, hafter⟩ := List.head?_eq_some_iff.mp hhead
    refine ⟨fun y hy => List.mem_takeWhile_imp hy, after, ?_⟩
    rw [← hafter]
    exact (List.prefix_iff_eq_append.mp (List.takeWhile_prefix p)).symm
  · rintro ⟨hw, after, rfl⟩
    obtain ⟨htake, -⟩ := runs_append (t := x :: after) hw (by simpa using hx)
    rw [htake]
    simp

/-- What comes after a text does not change what its first run stands before, unless it goes on with the
run. -/
theorem before_append_iff {w xs rest : List α} {x : α} (hw : ∀ y ∈ w, p y = true)
    (hrest : ∀ front after, rest = front ++ x :: after → ∃ y ∈ front, p y = false) :
    (∃ after, xs ++ rest = w ++ x :: after) ↔ ∃ after, xs = w ++ x :: after := by
  constructor
  · rintro ⟨after, hafter⟩
    obtain ⟨front, hfront, hends⟩ | ⟨tail, hxs, hends⟩ := List.append_eq_append_iff.mp hafter
    · -- the run would reach beyond the text, past something that ends it
      obtain ⟨y, hy, hnot⟩ := hrest front after hends
      have hrun := hw y (hfront ▸ List.mem_append_right xs hy)
      simp [hnot] at hrun
    · cases tail with
      | nil =>
        obtain ⟨y, hy, -⟩ := hrest [] after hends.symm
        cases hy
      | cons c tail =>
        obtain ⟨rfl, -⟩ := List.cons.inj hends
        exact ⟨tail, hxs⟩
  · rintro ⟨after, rfl⟩
    exact ⟨after ++ rest, by simp⟩

theorem dropWhile_append_of_neg {w t : List α} (ht : ∀ x ∈ t, p x = false) :
    (w ++ t).dropWhile p = w.dropWhile p ++ t := by
  rw [List.dropWhile_append]
  split
  · next hempty =>
    rw [List.isEmpty_iff.mp hempty, List.nil_append, ← List.nil_append t]
    exact (runs_append (by simp) fun x hx => ht x (List.mem_of_head? hx)).2
  · rfl

end Runs

variable {cs ds w w' word : List Char}

/-! ### Blanks at the end -/

def AllBlank (cs : List Char) : Prop := ∀ c ∈ cs, isBlank c = true

theorem allBlank_nil : AllBlank [] := by simp [AllBlank]

theorem AllBlank.append (hcs : AllBlank cs) (hds : AllBlank ds) : AllBlank (cs ++ ds) := by
  intro c hc
  rcases List.mem_append.mp hc with hc | hc
  · exact hcs c hc
  · exact hds c hc

theorem exists_trimEnd (cs : List Char) :
    ∃ tail, cs = trimEnd cs ++ tail ∧ AllBlank tail ∧
      tail.length = (cs.reverse.takeWhile isBlank).length := by
  refine ⟨(cs.reverse.takeWhile isBlank).reverse, ?_, ?_, by simp⟩
  · rw [trimEnd, dropEndWhile, ← List.reverse_append, List.takeWhile_append_dropWhile,
      List.reverse_reverse]
  · intro c hc
    exact List.mem_takeWhile_imp (List.mem_reverse.mp hc)

/-! ### Bare texts -/

/-- A text that neither begins nor ends with a blank.  The empty text is bare. -/
structure Bare (cs : List Char) : Prop where
  begins : ∀ c ∈ cs.head?, isBlank c = false
  ends : ∀ c ∈ cs.getLast?, isBlank c = false

theorem bare_nil : Bare [] := ⟨by simp, by simp⟩

theorem Bare.append (hcs : Bare cs) (hds : Bare ds) : Bare (cs ++ ds) := by
  constructor
  · intro c hc
    rw [List.head?_append, Option.mem_def, Option.or_eq_some_iff] at hc
    rcases hc with hc | ⟨-, hc⟩
    · exact hcs.begins c hc
    · exact hds.begins c hc
  · intro c hc
    rw [List.getLast?_append, Option.mem_def, Option.or_eq_some_iff] at hc
    rcases hc with hc | ⟨-, hc⟩
    · exact hds.ends c hc
    · exact hcs.ends c hc

theorem Bare.flatMap {α : Type} {f : α → List Char} (hf : ∀ x, Bare (f x)) (xs : List α) :
    Bare (xs.flatMap f) := by
  induction xs with
  | nil => exact bare_nil
  | cons x xs ih =>
    rw [List.flatMap_cons]
    exact (hf x).append ih

/-! ### Trimming -/

theorem bare_trim (cs : List Char) : Bare (trim cs) := by
  obtain ⟨tail, hsplit, -, -⟩ := exists_trimEnd (cs.dropWhile isBlank)
  change cs.dropWhile isBlank = trim cs ++ tail at hsplit
  constructor
  · intro c hc
    apply head?_dropWhile_eq_false cs c
    rw [hsplit, List.head?_append, hc]
    rfl
  · intro c hc
    apply head?_dropWhile_eq_false (cs.dropWhile isBlank).reverse c
    rwa [trim, dropEnds, dropEndWhile, List.getLast?_reverse] at hc

theorem exists_trim (cs : List Char) :
    ∃ w w', cs = w ++ (trim cs ++ w') ∧ AllBlank w ∧ AllBlank w' := by
  obtain ⟨tail, hsplit, htail, -⟩ := exists_trimEnd (cs.dropWhile isBlank)
  refine ⟨cs.takeWhile isBlank, tail, ?_, fun c hc => List.mem_takeWhile_imp hc, htail⟩
  change cs.dropWhile isBlank = trim cs ++ tail at hsplit
  rw [← hsplit, List.takeWhile_append_dropWhile]

/-- Blanks around a bare text are trimmed, and nothing else. -/
theorem trim_of_bare (hword : Bare word) (hw : AllBlank w) (hw' : AllBlank w') :
    trim (w ++ (word ++ w')) = word := by
  by_cases hempty : word = []
  · subst hempty
    have hall : (w ++ ([] ++ w')).dropWhile isBlank = [] :=
      List.dropWhile_eq_nil_iff.mpr (hw.append hw')
    rw [trim, dropEnds, hall]
    rfl
  · have hhead : ∀ c ∈ (word ++ w').head?, isBlank c = false := by
      cases word with
      | nil => exact absurd rfl hempty
      | cons c word => exact hword.begins
    have hlast : ∀ c ∈ word.reverse.head?, isBlank c = false := by
      rw [List.head?_reverse]
      exact hword.ends
    have htail : ∀ c ∈ w'.reverse, isBlank c = true := by
      intro c hc
      exact hw' c (List.mem_reverse.mp hc)
    rw [trim, dropEnds, (runs_append hw hhead).2, dropEndWhile, List.reverse_append,
      (runs_append htail hlast).2, List.reverse_reverse]

theorem trim_eq_iff (hword : Bare word) :
    trim cs = word ↔ ∃ w w', cs = w ++ (word ++ w') ∧ AllBlank w ∧ AllBlank w' := by
  constructor
  · rintro rfl
    exact exists_trim cs
  · rintro ⟨w, w', rfl, hw, hw'⟩
    exact trim_of_bare hword hw hw'

theorem trim_between (hw : AllBlank w) (hw' : AllBlank w') (cs : List Char) :
    trim (w ++ (cs ++ w')) = trim cs := by
  obtain ⟨v, v', hcs, hv, hv'⟩ := exists_trim cs
  refine (trim_eq_iff (bare_trim cs)).mpr ⟨w ++ v, v' ++ w', ?_, hw.append hv, hv'.append hw'⟩
  calc
    w ++ (cs ++ w') = w ++ ((v ++ (trim cs ++ v')) ++ w') := by rw [← hcs]
    _ = w ++ v ++ (trim cs ++ (v' ++ w')) := by simp only [List.append_assoc]

theorem trim_eq_nil_iff : trim cs = [] ↔ AllBlank cs := by
  rw [trim_eq_iff bare_nil]
  constructor
  · rintro ⟨w, w', rfl, hw, hw'⟩
    exact hw.append hw'
  · intro hcs
    exact ⟨cs, [], by simp, hcs, allBlank_nil⟩

end TreeLint.Text
