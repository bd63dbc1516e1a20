/-
  TreeLint/Proofs/ReportRows.lean
  ===============================
  **Every diagnostic has one row.**  What a report shows is read back from its blocks: all tables, each
  with the line right above it if there is one, all lines and all panels.  The tables have one row for each
  diagnostic, file by file, and the panel at the end counts the same diagnostics by severity.

  Files and severities are two ways of parting one list.  Where the keys are all different and every item
  has one of them, the parts together are the list again, in another order (`flatMap_filter_perm`).  The
  permutation of the rows and the sum of the counts both come from this.

  The main statement is `report_shows_each_once`.
-/
import Mathlib.Algebra.GroupWithZero.Nat
import TreeLint.Proofs.ReportText

namespace TreeLint

/-! ### Parting a list by a key -/

section Parting

variable {α κ : Type} [DecidableEq κ] {keys : List κ} {key : α → κ}

theorem flatMap_filter_perm_filter (hnodup : keys.Nodup) (xs : List α) :
    (keys.flatMap fun k => xs.filter (key · == k)).Perm (xs.filter (key · ∈ keys)) := by
  induction keys with
  | nil => simp
  | cons k keys ih =>
    obtain ⟨hk, hkeys⟩ := List.nodup_cons.mp hnodup
    have hparts := List.filter_append_perm (key · == k) (xs.filter (key · ∈ k :: keys))
    have hfirst : (xs.filter (key · ∈ k :: keys)).filter (key · == k) = xs.filter (key · == k) := by
      rw [List.filter_filter]
      apply List.filter_congr
      intro x _
      by_cases hx : key x = k <;> simp [hx]
    have hothers : (xs.filter (key · ∈ k :: keys)).filter (fun x => !(key x == k)) =
        xs.filter (key · ∈ keys) := by
      rw [List.filter_filter]
      apply List.filter_congr
      intro x _
      by_cases hx : key x = k <;> simp [hx, hk]
    rw [hfirst, hothers] at hparts
    rw [List.flatMap_cons]
    exact ((ih hkeys).append_left _).trans hparts

theorem flatMap_filter_perm {xs : List α} (hnodup : keys.Nodup) (hkeys : ∀ x ∈ xs, key x ∈ keys) :
    (keys.flatMap fun k => xs.filter (key · == k)).Perm xs := by
  have hall : xs.filter (key · ∈ keys) = xs := by
    rw [List.filter_eq_self]
    intro x hx
    simpa using hkeys x hx
  exact (flatMap_filter_perm_filter hnodup xs).trans (.of_eq hall)

theorem sum_countP_eq_length {xs : List α} (hnodup : keys.Nodup) (hkeys : ∀ x ∈ xs, key x ∈ keys) :
    (keys.map fun k => xs.countP (key · == k)).sum = xs.length := by
  rw [← (flatMap_filter_perm hnodup hkeys).length_eq, List.length_flatMap]
  simp only [List.countP_eq_length_filter]

end Parting

/-- Names without repetition come in the order in which they first occur. -/
theorem pairwise_idxOf_eraseDups (names : List String) :
    names.eraseDups.Pairwise fun p q => names.idxOf p < names.idxOf q := by
  induction names using List.reverseRecOn with
  | nil => simp
  | append_singleton names name ih =>
    have hkept : ∀ p ∈ names.eraseDups, (names ++ [name]).idxOf p = names.idxOf p := by
      intro p hp
      exact List.idxOf_append_of_mem (List.mem_eraseDups.mp hp)
    have hold : names.eraseDups.Pairwise fun p q =>
        (names ++ [name]).idxOf p < (names ++ [name]).idxOf q := by
      refine ih.imp_of_mem ?_
      intro p q hp hq hpq
      rwa [hkept p hp, hkept q hq]
    rw [eraseDups_concat]
    split
    · exact hold
    · next hnew =>
      refine List.pairwise_append.mpr ⟨hold, List.pairwise_singleton _ _, ?_⟩
      intro p hp q hq
      rw [List.mem_singleton.mp hq, hkept p hp, List.idxOf_append_of_notMem hnew]
      have hbefore := List.idxOf_lt_length_of_mem (List.mem_eraseDups.mp hp)
      omega

/-! ### Reading a report back -/

namespace Console

/-- The tables among blocks, each with the line right above it, if there is one.  `above` is the line right
above the first block. -/
def tablesUnder : Option String → List Block → List (Option String × Table)
  | _, [] => []
  | above, .table t :: rest => (above, t) :: tablesUnder none rest
  | _, .line s :: rest => tablesUnder (some s) rest
  | _, .blank :: rest => tablesUnder none rest
  | _, .panel _ :: rest => tablesUnder none rest

def tables (blocks : List Block) : List (Option String × Table) := tablesUnder none blocks

/-- The panel that a block is. -/
def panel? : Block → Option Panel
  | .panel p => some p
  | _ => none

/-- The rows of a table under its header, cut out of the columns as for drawing. -/
def Table.rows (t : Table) : List (List (Option Cell)) :=
  (List.range (greatest (t.columns.map (·.cells.length)))).map fun i => t.columns.map (·.cells[i]?)

theorem tablesUnder_lines {lines : List Block} (hlines : ∀ block ∈ lines, ∃ s, block = .line s)
    (above : Option String) (rest : List Block) :
    tablesUnder above (lines ++ .blank :: rest) = tables rest := by
  induction lines generalizing above with
  | nil => rfl
  | cons block lines ih =>
    obtain ⟨⟨s, rfl⟩, hrest⟩ := List.forall_mem_cons.mp hlines
    exact ih hrest (some s)

end Console

namespace Report

open Console Data

/-! ### Tables -/

/-- The line above the table of a file. -/
def heading (file : String) : String := "[bold cyan]" ++ file ++ "[/bold cyan]"

/-- The cells that show a diagnostic. -/
def row (d : Diagnostic) : List Cell :=
  [.markup (toString d.location.line), .markup (toString d.location.column), severityCell d.severity,
    .markup d.rule, .markup d.message]

theorem rows_diagnosticTable (ds : List Diagnostic) :
    (diagnosticTable ds).rows = ds.map fun d => (row d).map some := by
  have hheight : greatest ((diagnosticTable ds).columns.map (·.cells.length)) = ds.length := by
    simp [diagnosticTable, greatest]
  apply List.ext_getElem?
  intro i
  rw [Table.rows, hheight]
  by_cases hi : i < ds.length
  · simp [diagnosticTable, row, hi]
  · simp [hi]

/-- The lines under a table. -/
def details (verbose : Bool) (ds : List Diagnostic) : List Block :=
  if verbose then ds.flatMap detailLines else []

theorem isLine_of_mem_details (verbose : Bool) (ds : List Diagnostic) :
    ∀ block ∈ details verbose ds, ∃ s, block = .line s := by
  intro block hblock
  unfold details at hblock
  split at hblock
  · obtain ⟨d, -, hblock⟩ := List.mem_flatMap.mp hblock
    exact isLine_of_mem_detailLines hblock
  · cases hblock

theorem tables_files (verbose : Bool) (groups : Entries (List Diagnostic)) (rest : List Block) :
    tables (groups.flatMap (fun (file, group) => fileBlocks verbose file group) ++ .blank :: rest) =
      groups.map (fun (file, group) => (some (heading file), diagnosticTable group)) ++ tables rest := by
  -- what follows a file's blocks begins with a blank: the next file, or the summary
  induction groups with
  | nil => rfl
  | cons entry groups ih =>
    obtain ⟨file, group⟩ := entry
    obtain ⟨after, hafter⟩ : ∃ after,
        groups.flatMap (fun (file, group) => fileBlocks verbose file group) ++ .blank :: rest =
          .blank :: after := by
      cases groups with
      | nil => exact ⟨rest, rfl⟩
      | cons next groups => exact ⟨_, rfl⟩
    have hdetails := tablesUnder_lines (isLine_of_mem_details verbose group) none after
    rw [hafter] at ih
    rw [List.flatMap_cons, List.append_assoc, hafter, List.map_cons, List.cons_append, ← ih]
    exact congrArg ((some (heading file), diagnosticTable group) :: ·) hdetails

theorem filterMap_markup?_files (verbose : Bool) (groups : Entries (List Diagnostic)) :
    (groups.flatMap fun (file, group) => fileBlocks verbose file group).filterMap markup? =
      groups.flatMap fun (file, group) => heading file :: (details verbose group).filterMap markup? := by
  rw [List.filterMap_flatMap]
  rfl

theorem filterMap_panel?_files (verbose : Bool) (groups : Entries (List Diagnostic)) :
    (groups.flatMap fun (file, group) => fileBlocks verbose file group).filterMap panel? = [] := by
  rw [List.filterMap_eq_nil_iff]
  intro block hblock
  obtain ⟨⟨file, group⟩, -, hblock⟩ := List.mem_flatMap.mp hblock
  rcases List.mem_append.mp hblock with hfile | hdetail
  · simp only [List.mem_cons, List.not_mem_nil, or_false] at hfile
    rcases hfile with rfl | rfl | rfl <;> rfl
  · obtain ⟨s, rfl⟩ := isLine_of_mem_details verbose group block hdetail
    rfl

/-! ### Counts -/

theorem sum_filter_ne_zero (counts : List (Severity × Nat)) :
    ((counts.filter (·.2 != 0)).map Prod.snd).sum = (counts.map Prod.snd).sum := by
  induction counts with
  | nil => rfl
  | cons entry counts ih =>
    by_cases hzero : entry.2 = 0
    · simp [hzero, ih]
    · simp [hzero, ih]

/-- The numbers of diagnostics by severity, from the greatest to the least severity that occurs. -/
structure Counts (ds : List Diagnostic) (counts : List (Severity × Nat)) : Prop where
  listed : ∀ s n, (s, n) ∈ counts ↔ n = ds.countP (·.severity == s) ∧ n ≠ 0
  descending : counts.Pairwise fun x y => y.1 < x.1
  total : (counts.map Prod.snd).sum = ds.length

theorem counts_severityCounts (ds : List Diagnostic) : Counts ds (severityCounts ds) := by
  have hall : ∀ s : Severity, s ∈ Severity.all.reverse := by
    intro s
    cases s <;> decide
  have hdescending : Severity.all.reverse.Pairwise fun s t => t < s := by decide
  constructor
  · intro s n
    simp only [severityCounts, countOf, List.mem_filter, List.mem_map, Prod.mk.injEq]
    constructor
    · rintro ⟨⟨t, -, rfl, rfl⟩, hn⟩
      exact ⟨rfl, by simpa using hn⟩
    · rintro ⟨rfl, hn⟩
      exact ⟨⟨s, hall s, rfl, rfl⟩, by simpa using hn⟩
  · apply List.Pairwise.filter
    rw [List.pairwise_map]
    exact hdescending
  · rw [severityCounts, sum_filter_ne_zero, List.map_map]
    exact sum_countP_eq_length (by decide) fun d _ => hall d.severity

/-- What a summary says of a number of diagnostics and of the numbers by severity. -/
def summaryOf (total : Nat) (counts : List (Severity × Nat)) : String :=
  " | ".intercalate
    (("[bold]" ++ toString total ++ " diagnostic" ++ (if total = 1 then "" else "s") ++ "[/bold]")
      :: counts.map fun (s, n) =>
        "[" ++ severityStyle s ++ "]" ++ toString n ++ " " ++ s.name ++ "[/]")

/-! ### Groups -/

/-- Diagnostics by file: every file once, in the order in which the files first occur, and with each
file its diagnostics in their order. -/
structure Groups (ds : List Diagnostic) (groups : List (String × List Diagnostic)) : Prop where
  distinct : (groups.map Prod.fst).Nodup
  files : ∀ file, file ∈ groups.map Prod.fst ↔ ∃ d ∈ ds, d.file = file
  order : (groups.map Prod.fst).Pairwise fun p q =>
    (ds.map (·.file)).idxOf p < (ds.map (·.file)).idxOf q
  rows : ∀ group ∈ groups, group.2 = ds.filter (·.file == group.1)
  together : (groups.flatMap Prod.snd).Perm ds

theorem groups_groupByFile (ds : List Diagnostic) : Groups ds (groupByFile ds) := by
  have hfiles : (groupByFile ds).map Prod.fst = filesOf ds := by
    rw [groupByFile_eq, List.map_map]
    exact List.map_id _
  constructor
  · rw [hfiles]
    exact nodup_eraseDups _
  · intro file
    rw [hfiles]
    exact mem_filesOf
  · rw [hfiles]
    exact pairwise_idxOf_eraseDups _
  · intro group hgroup
    rw [groupByFile_eq] at hgroup
    obtain ⟨file, -, rfl⟩ := List.mem_map.mp hgroup
    rfl
  · rw [groupByFile_eq, List.flatMap_map]
    exact flatMap_filter_perm (nodup_eraseDups _) fun d hd => mem_filesOf.mpr ⟨d, hd, rfl⟩

/-- **A report shows each diagnostic once.**

1. All its tables are those of groups by file, each right under the name of its file and with one row for
   each diagnostic of the file.
2. All its lines are the names of the groups' files and, on request, after each name the fixes and notes of
   its group.
3. The report on no diagnostics is one panel.  Any other has one panel, which tells their number and their
   numbers by severity. -/
theorem report_shows_each_once (verbose : Bool) (ds : List Diagnostic) :
    ∃ groups counts, Groups ds groups ∧ Counts ds counts ∧
      (tables (diagnostics verbose ds)).map (fun x => (x.1, x.2.rows)) =
        groups.map (fun group => (some (heading group.1), group.2.map fun d => (row d).map some)) ∧
      (diagnostics verbose ds).filterMap markup? =
        groups.flatMap (fun group => heading group.1 :: (details verbose group.2).filterMap markup?) ∧
      (ds = [] → diagnostics verbose ds = [.panel cleanPanel]) ∧
      (ds ≠ [] → ((diagnostics verbose ds).filterMap panel?).map Panel.body =
        [summaryOf ds.length counts]) := by
  refine ⟨groupByFile ds, severityCounts ds, groups_groupByFile ds, counts_severityCounts ds, ?_⟩
  by_cases hempty : ds = []
  · subst hempty
    exact ⟨rfl, rfl, fun _ => rfl, fun h => absurd rfl h⟩
  · have hblocks : diagnostics verbose ds =
        (groupByFile ds).flatMap (fun (file, group) => fileBlocks verbose file group)
          ++ [.blank, .panel (summaryPanel ds)] := by
      rw [diagnostics, if_neg (by simpa using hempty)]
    refine ⟨?_, ?_, fun h => absurd h hempty, fun _ => ?_⟩
    · rw [hblocks, tables_files, List.map_append, List.map_map]
      simp [Function.comp_def, rows_diagnosticTable, tables, tablesUnder]
    · rw [hblocks, List.filterMap_append, filterMap_markup?_files]
      exact List.append_nil _
    · rw [hblocks, List.filterMap_append, filterMap_panel?_files]
      rfl

end Report

end TreeLint
