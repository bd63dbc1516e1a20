/-
  TreeLint/Proofs/FileGroups.lean
  ===============================
  **Diagnostics by file.**  A report adds diagnostics to groups one by one.  What comes of it can be told
  without the groups on the way: one group for each file, files in the order in which they first occur,
  and in each group the diagnostics of its file in their order (`groupByFile_eq`).
-/
import Mathlib.Data.List.Induction
import Mathlib.Data.List.Nodup
import TreeLint.Report

namespace TreeLint

/-! ### Entries with the values of a function -/

namespace Data.Entries

variable {α : Type} {value : String → α} {key : String} {keys : List String}

theorem get?_map (value : String → α) (key : String) (keys : List String) :
    get? key (keys.map fun k => (k, value k)) = if key ∈ keys then some (value key) else none := by
  induction keys with
  | nil => rfl
  | cons k keys ih =>
    rw [List.map_cons, get?, ih]
    by_cases hk : k = key
    · simp [hk]
    · simp [hk, Ne.symm hk]

theorem set_map_of_not_mem (h : key ∉ keys) (v : α) :
    set key v (keys.map fun k => (k, value k)) = keys.map (fun k => (k, value k)) ++ [(key, v)] := by
  induction keys with
  | nil => rfl
  | cons k keys ih =>
    obtain ⟨hk, hkeys⟩ := not_or.mp (List.mem_cons.not.mp h)
    rw [List.map_cons, set, if_neg (Ne.symm hk), ih hkeys, List.cons_append]

/-- Only the entry of the key changes. -/
theorem set_map_of_mem (hnodup : keys.Nodup) (h : key ∈ keys) {changed : String → α}
    (hothers : ∀ k, k ≠ key → changed k = value k) :
    set key (changed key) (keys.map fun k => (k, value k)) = keys.map fun k => (k, changed k) := by
  induction keys with
  | nil => cases h
  | cons k keys ih =>
    obtain ⟨hk, hkeys⟩ := List.nodup_cons.mp hnodup
    rw [List.map_cons, List.map_cons, set]
    by_cases heq : k = key
    · subst heq
      have hsame : keys.map (fun k => (k, value k)) = keys.map fun k => (k, changed k) := by
        refine List.map_congr_left fun j hj => ?_
        rw [hothers j fun hjk => hk (hjk ▸ hj)]
      rw [if_pos rfl, hsame]
    · have hmem := List.mem_of_ne_of_mem (Ne.symm heq) h
      rw [if_neg heq, ih hkeys hmem, hothers k heq]

end Data.Entries

/-! ### First occurrences -/

theorem eraseDups_concat (names : List String) (name : String) :
    (names ++ [name]).eraseDups =
      if name ∈ names then names.eraseDups else names.eraseDups ++ [name] := by
  rw [List.eraseDups_append]
  by_cases h : name ∈ names
  · simp [h, List.removeAll]
  · simp [h, List.removeAll, List.eraseDups_cons]

theorem nodup_eraseDups (names : List String) : names.eraseDups.Nodup := by
  induction names using List.reverseRecOn with
  | nil => simp
  | append_singleton names name ih =>
    rw [eraseDups_concat]
    split
    · exact ih
    · next h =>
      refine List.nodup_append.mpr ⟨ih, by simp, ?_⟩
      intro a ha b hb hab
      rw [hab, List.mem_singleton.mp hb] at ha
      exact h (List.mem_eraseDups.mp ha)

namespace Report

open Data

/-! ### Groups -/

/-- The files of diagnostics, each where it first occurs. -/
def filesOf (ds : List Diagnostic) : List String := (ds.map (·.file)).eraseDups

/-- The diagnostics of a file. -/
def inFile (ds : List Diagnostic) (file : String) : List Diagnostic := ds.filter (·.file == file)

theorem mem_filesOf {ds : List Diagnostic} {file : String} :
    file ∈ filesOf ds ↔ ∃ d ∈ ds, d.file = file := by
  simp [filesOf, List.mem_eraseDups]

theorem inFile_eq_nil {ds : List Diagnostic} {file : String} (h : file ∉ filesOf ds) :
    inFile ds file = [] := by
  refine List.filter_eq_nil_iff.mpr fun d hd => ?_
  intro hfile
  exact h (mem_filesOf.mpr ⟨d, hd, by simpa using hfile⟩)

theorem groupByFile_concat (ds : List Diagnostic) (d : Diagnostic) :
    groupByFile (ds ++ [d]) = addToGroup (groupByFile ds) d := by
  rw [groupByFile, List.foldl_append]
  rfl

theorem inFile_concat (ds : List Diagnostic) (d : Diagnostic) (file : String) :
    inFile (ds ++ [d]) file = if d.file = file then inFile ds file ++ [d] else inFile ds file := by
  rw [inFile, List.filter_append]
  split
  · next h => simp [h, inFile]
  · next h => simp [h, inFile]

/-- A file has one group, with all its diagnostics. -/
theorem groupByFile_eq (ds : List Diagnostic) :
    groupByFile ds = (filesOf ds).map fun file => (file, inFile ds file) := by
  induction ds using List.reverseRecOn with
  | nil => rfl
  | append_singleton ds d ih =>
    have hgroup : (Entries.get? d.file (groupByFile ds)).getD [] = inFile ds d.file := by
      rw [ih, Entries.get?_map]
      split
      · rfl
      · next h => rw [inFile_eq_nil h, Option.getD_none]
    have hchanged : inFile ds d.file ++ [d] = inFile (ds ++ [d]) d.file := by
      rw [inFile_concat, if_pos rfl]
    have hothers : ∀ file, file ≠ d.file → inFile (ds ++ [d]) file = inFile ds file := by
      intro file hfile
      rw [inFile_concat, if_neg (Ne.symm hfile)]
    have hfiles : filesOf (ds ++ [d]) =
        if d.file ∈ filesOf ds then filesOf ds else filesOf ds ++ [d.file] := by
      simp only [filesOf, List.map_append, List.map_singleton, eraseDups_concat, List.mem_eraseDups]
    rw [groupByFile_concat, addToGroup, hgroup, hchanged, ih, hfiles]
    split
    · next h => exact Entries.set_map_of_mem (nodup_eraseDups _) h hothers
    · next h =>
      rw [Entries.set_map_of_not_mem h, List.map_append, List.map_singleton]
      congr 1
      refine List.map_congr_left fun file hfile => ?_
      rw [hothers file fun hsame => h (hsame ▸ hfile)]

end Report

end TreeLint
