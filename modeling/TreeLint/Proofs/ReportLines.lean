/-
  TreeLint/Proofs/ReportLines.lean
  ================================
  **The lines of a report.**  Paths, fixes and notes are printed as lines of markup, with tags of the
  report's own around them and nothing done to the texts themselves.  So a line shows its texts exactly
  when they are inert.  A path must not end with a backslash either, since the closing tag stands right
  behind it.  All other texts lose characters, turn into emoji, or make reading fail.

  The lines are listed together with what they should show (`printed`), and all of them show it exactly
  when each diagnostic is kept (`shows_printed_iff`).
-/
import TreeLint.Proofs.Drawing
import TreeLint.Proofs.FileGroups
import TreeLint.Proofs.MarkedLines

namespace TreeLint

open Console Console.Markup

namespace Console

/-! ### Texts of the report's own -/

/-- A character that shows as it is wherever it stands, codes aside. -/
def isClear (c : Char) : Bool := !isDropped c && c != '[' && c != '\\' && isSteady c

theorem isClear_iff {c : Char} :
    isClear c = true ↔ isDropped c = false ∧ c ≠ '[' ∧ c ≠ '\\' ∧ isSteady c = true := by
  simp [isClear, and_assoc]

def Clear (cs : List Char) : Prop := ∀ c ∈ cs, isClear c = true

instance (cs : List Char) : Decidable (Clear cs) := List.decidableBAll _ cs

/-- A clear text that cannot have codes. -/
def Ordinary (cs : List Char) : Prop := Clear cs ∧ ':' ∉ cs

instance (cs : List Char) : Decidable (Ordinary cs) := inferInstanceAs (Decidable (_ ∧ _))

section Clear

variable {cs ds : List Char}

theorem Clear.append (hcs : Clear cs) (hds : Clear ds) : Clear (cs ++ ds) :=
  List.forall_mem_append.mpr ⟨hcs, hds⟩

theorem Clear.steady (h : Clear cs) : Steady cs := fun c hc => (isClear_iff.mp (h c hc)).2.2.2

theorem Clear.unmarked (h : Clear cs) : unmarked cs = true := by
  induction cs with
  | nil => rfl
  | cons c cs ih =>
    obtain ⟨hc, hcs⟩ := List.forall_mem_cons.mp h
    obtain ⟨hdropped, hbracket, hbackslash, -⟩ := isClear_iff.mp hc
    simp [Markup.unmarked, hdropped, hbracket, hbackslash, ih hcs]

theorem Clear.getLast? (h : Clear cs) : cs.getLast? ≠ some '\\' := by
  intro hlast
  have hclear := h _ (List.mem_of_getLast? hlast)
  exact (isClear_iff.mp hclear).2.2.1 rfl

theorem Ordinary.append (hcs : Ordinary cs) (hds : Ordinary ds) : Ordinary (cs ++ ds) := by
  refine ⟨hcs.1.append hds.1, ?_⟩
  rw [List.mem_append, not_or]
  exact ⟨hcs.2, hds.2⟩

theorem Ordinary.steady (h : Ordinary cs) : Steady cs := h.1.steady

theorem Ordinary.getLast? (h : Ordinary cs) : cs.getLast? ≠ some '\\' := h.1.getLast?

theorem Ordinary.inert (h : Ordinary cs) : inert cs = true :=
  inert_iff.mpr ⟨h.1.unmarked, Emoji.codeless_of_not_mem h.2⟩

end Clear

theorem ordinary_nil : Ordinary [] := by decide

theorem ordinary_space : Ordinary " ".toList := by decide

theorem ordinary_digits (n : Nat) : Ordinary (toString n).toList := by
  have hdigits : (toString n).toList = Nat.toDigits 10 n := Nat.toList_repr
  have hdigit : ∀ c ∈ (toString n).toList, c.isDigit = true := by
    intro c hc
    rw [hdigits] at hc
    exact Nat.isDigit_of_mem_toDigits (by omega) (by omega) hc
  constructor
  · intro c hc
    have hc := hdigit c hc
    have hrange : 48 ≤ c.toNat ∧ c.toNat ≤ 57 := by
      simpa [Char.isDigit, UInt32.le_iff_toNat_le] using hc
    refine isClear_iff.mpr ⟨?_, ?_, ?_, isSteady_iff.mpr ⟨?_, ?_⟩⟩
    · simp [isDropped]
      omega
    all_goals
      rintro rfl
      revert hc
      decide
  · intro hcolon
    exact absurd (hdigit _ hcolon) (by decide)

end Console

namespace Report

/-! ### Lines of the report -/

/-- The pairs of tags that reports are made with. -/
def tagPairs : List (String × String) :=
  [("bold cyan", "/bold cyan"), ("dim", "/dim"), ("green", "/green"), ("bold", "/bold"),
   ("bold red", "/"), ("bold yellow", "/"), ("bold blue", "/")]

theorem isPair_of_mem : ∀ pair ∈ tagPairs, isPair pair.1.toList pair.2.toList = true := by
  decide +kernel

/-- A text in a style, and the text after it. -/
def marked (style closing : String) (text after : List Char) : Marked :=
  ⟨style.toList, closing.toList, text, after⟩

/-- The position of a diagnostic, as it stands before its fix. -/
def fixLabel (d : Diagnostic) : List Char :=
  (toString d.location.line ++ ":" ++ toString d.location.column ++ " fix:").toList

def headingMarks (file : String) : List Marked := [marked "bold cyan" "/bold cyan" file.toList []]

def fixMarks (d : Diagnostic) (fix : Fix) : List Marked :=
  [marked "dim" "/dim" (fixLabel d) ((" " ++ fix.description ++ " -> ").toList),
   marked "green" "/green" (Text.quoted fix.replacement).toList []]

def noteMarks (n : Note) : List Marked := [marked "dim" "/dim" "note:".toList (" " ++ n.message).toList]

/-- The two blanks that fixes and notes begin with. -/
def indentation : List Char := "  ".toList

theorem heading_eq (file : String) :
    "[bold cyan]" ++ file ++ "[/bold cyan]" = String.ofList (source [] (headingMarks file)) := by
  apply String.toList_injective
  simp [source, headingMarks, marked]

theorem fixLine_eq (d : Diagnostic) (fix : Fix) :
    fixLine d fix = .line (String.ofList (source indentation (fixMarks d fix))) := by
  rw [fixLine, Block.line.injEq]
  apply String.toList_injective
  simp [source, fixMarks, marked, fixLabel, indentation]

theorem noteLine_eq (n : Note) :
    noteLine n = .line (String.ofList (source indentation (noteMarks n))) := by
  rw [noteLine, Block.line.injEq]
  apply String.toList_injective
  simp [source, noteMarks, marked, indentation]

/-! ### Lines without markup -/

/-- A fix as a reader should see it. -/
def plainFix (d : Diagnostic) (fix : Fix) : List Char :=
  ("  " ++ toString d.location.line ++ ":" ++ toString d.location.column ++ " fix: " ++ fix.description
    ++ " -> " ++ Text.quoted fix.replacement).toList

/-- A note as a reader should see it. -/
def plainNote (n : Note) : List Char := ("  note: " ++ n.message).toList

/-- The lines that a report should show: each file's path, and on request the fixes and notes of its
diagnostics. -/
def plainLines (verbose : Bool) (ds : List Diagnostic) : List (List Char) :=
  (filesOf ds).flatMap fun file =>
    file.toList :: if verbose then
      (inFile ds file).flatMap fun d => (d.fix.map (plainFix d)).toList ++ d.notes.map plainNote
    else []

/-- Markup that is read as a text. -/
def Shows (markup : String) (text : List Char) : Prop := (Markup.read markup).map (·.chars) = .ok text

theorem shows_heading_iff (file : String) :
    Shows (String.ofList (source [] (headingMarks file))) file.toList ↔
      inert file.toList = true ∧ file.toList.getLast? ≠ some '\\' :=
  read_marked_iff (isPair_of_mem ("bold cyan", "/bold cyan") (by decide)) (by decide)

theorem inert_space (cs : List Char) : inert (' ' :: cs) = inert cs := by
  have hspace : isDropped ' ' = false := by decide
  have hcodes : Emoji.codeless (' ' :: cs) = Emoji.codeless cs := by
    rw [Emoji.codeless, Emoji.marks, if_neg (by decide)]
    rfl
  rw [inert, unmarked, hcodes]
  simp [hspace, inert]

theorem inert_message (s : String) : inert (" " ++ s).toList = inert s.toList := by
  have hlist : (" " ++ s).toList = ' ' :: s.toList := by simp
  rw [hlist, inert_space]

/-- Blanks and an arrow around a description change nothing. -/
theorem inert_description (s : String) : inert (" " ++ s ++ " -> ").toList = inert s.toList := by
  have hopens : Opens " -> ".toList := by
    intro front after hsplit
    have hmem : ']' ∈ " -> ".toList := by simp [hsplit]
    exact absurd hmem (by decide)
  have harrow : unmarked " -> ".toList = true := by decide
  have hcodes : Emoji.codeless (s.toList ++ " -> ".toList) = Emoji.codeless s.toList := by
    have hrest : " -> ".toList = ' ' :: "-> ".toList := by decide
    have hnone : Emoji.codeless (' ' :: "-> ".toList) = true := by decide
    rw [hrest, Emoji.codeless_append (by decide), hnone, Bool.and_true]
  have hlist : (" " ++ s ++ " -> ").toList = ' ' :: (s.toList ++ " -> ".toList) := by simp
  rw [hlist, inert_space, inert, unmarked_append hopens (by decide), harrow, hcodes, Bool.and_true, inert]

/-! ### Labels -/

theorem clear_fixLabel (d : Diagnostic) : Clear (fixLabel d) := by
  have hcolon : Clear ":".toList := by decide
  have hfix : Clear " fix:".toList := by decide
  simp only [fixLabel, String.toList_append]
  exact (((ordinary_digits _).1.append hcolon).append (ordinary_digits _).1).append hfix

theorem inert_fixLabel (d : Diagnostic) : inert (fixLabel d) = true := by
  have hlabel : fixLabel d = ((toString d.location.line).toList ++ ':' ::
      (toString d.location.column).toList) ++ ' ' :: "fix:".toList := by
    simp [fixLabel]
  refine inert_iff.mpr ⟨(clear_fixLabel d).unmarked, ?_⟩
  rw [hlabel, Emoji.codeless_append (by decide), Bool.and_eq_true]
  refine ⟨Emoji.codeless_of_count_lt ?_, by decide⟩
  -- the colon between line and column is the only one
  have hline := List.count_eq_zero.mpr (ordinary_digits d.location.line).2
  have hcolumn := List.count_eq_zero.mpr (ordinary_digits d.location.column).2
  rw [List.count_append, List.count_cons_self, hline, hcolumn]
  decide

theorem clear_noteLabel : Clear "note:".toList := by decide

theorem inert_noteLabel : inert "note:".toList = true := by decide

theorem ordinary_indentation : Ordinary indentation := by decide

/-- A quoted text ends with a quote. -/
theorem getLast?_quoted (s : String) : (Text.quoted s).toList.getLast? ≠ some '\\' := by
  simp only [Text.quoted, Text.quoteChars, String.toList_ofList]
  rw [← List.cons_append, List.getLast?_append]
  simp only [List.getLast?_singleton, Option.some_or, Text.quoteMark]
  split <;> decide

theorem separate_fix (d : Diagnostic) (fix : Fix) : Separate indentation (fixMarks d fix) := by
  have hdescription : (" " ++ fix.description ++ " -> ").toList.getLast? ≠ some '\\' := by
    have hlist : (" " ++ fix.description ++ " -> ").toList =
        (" " ++ fix.description ++ " ->").toList ++ [' '] := by simp
    intro hlast
    rw [hlist, getLast?_eq_backslash_iff (by decide)] at hlast
    cases hlast
  simp only [fixMarks, marked, Separate]
  exact ⟨ordinary_indentation.getLast?, (clear_fixLabel d).getLast?, hdescription,
    getLast?_quoted fix.replacement, trivial⟩

theorem separate_note (n : Note) : Separate indentation (noteMarks n) :=
  ⟨ordinary_indentation.getLast?, clear_noteLabel.getLast?, trivial⟩

theorem pairs_fix (d : Diagnostic) (fix : Fix) :
    ∀ m ∈ fixMarks d fix, isPair m.style m.closing = true := by
  have hdim := isPair_of_mem ("dim", "/dim") (by decide)
  have hgreen := isPair_of_mem ("green", "/green") (by decide)
  simpa [fixMarks, marked] using ⟨hdim, hgreen⟩

theorem pairs_note (n : Note) : ∀ m ∈ noteMarks n, isPair m.style m.closing = true := by
  have hdim := isPair_of_mem ("dim", "/dim") (by decide)
  simpa [noteMarks, marked] using hdim

theorem inert_fix_iff (d : Diagnostic) (fix : Fix) :
    (∀ t ∈ texts indentation (fixMarks d fix), inert t = true) ↔
      inert fix.description.toList = true ∧ inert (Text.quoted fix.replacement).toList = true := by
  simp only [fixMarks, texts, marked, List.forall_mem_cons, inert_description, ordinary_nil.inert,
    ordinary_indentation.inert, inert_fixLabel d, true_and]
  simp

theorem inert_note_iff (n : Note) :
    (∀ t ∈ texts indentation (noteMarks n), inert t = true) ↔ inert n.message.toList = true := by
  simp only [noteMarks, texts, marked, List.forall_mem_cons, inert_message, inert_noteLabel,
    ordinary_indentation.inert, true_and]
  simp

theorem shows_fix_iff (d : Diagnostic) (fix : Fix) :
    Shows (String.ofList (source indentation (fixMarks d fix))) (plainFix d fix) ↔
      inert fix.description.toList = true ∧ inert (Text.quoted fix.replacement).toList = true := by
  have htexts : (texts indentation (fixMarks d fix)).flatten = plainFix d fix := by
    simp [texts, fixMarks, marked, plainFix, fixLabel, indentation]
  rw [Shows, ← htexts, read_source_iff (pairs_fix d fix) (separate_fix d fix), inert_fix_iff]

theorem shows_note_iff (n : Note) :
    Shows (String.ofList (source indentation (noteMarks n))) (plainNote n) ↔
      inert n.message.toList = true := by
  have htexts : (texts indentation (noteMarks n)).flatten = plainNote n := by
    simp [texts, noteMarks, marked, plainNote, indentation]
  rw [Shows, ← htexts, read_source_iff (pairs_note n) (separate_note n), inert_note_iff]

/-! ### All lines -/

/-- The markup of a line. -/
def markup? : Block → Option String
  | .line s => some s
  | _ => none

/-- The lines for a diagnostic, each with what it should show. -/
def printedDetails (d : Diagnostic) : List (String × List Char) :=
  (d.fix.map fun fix =>
      (String.ofList (source indentation (fixMarks d fix)), plainFix d fix)).toList
    ++ d.notes.map fun n => (String.ofList (source indentation (noteMarks n)), plainNote n)

/-- The lines of a report, each with what it should show. -/
def printed (verbose : Bool) (ds : List Diagnostic) : List (String × List Char) :=
  (filesOf ds).flatMap fun file =>
    (String.ofList (source [] (headingMarks file)), file.toList) ::
      if verbose then (inFile ds file).flatMap printedDetails else []

theorem filterMap_detailLines (d : Diagnostic) :
    (detailLines d).filterMap markup? = (printedDetails d).map (·.1) := by
  have hnotes : (d.notes.map noteLine).filterMap markup? =
      d.notes.map fun n => String.ofList (source indentation (noteMarks n)) := by
    simp [noteLine_eq, markup?, Function.comp_def]
  have hfix : (d.fix.map (fixLine d)).toList.filterMap markup? =
      (d.fix.map fun fix => String.ofList (source indentation (fixMarks d fix))).toList := by
    cases d.fix with
    | none => rfl
    | some fix => simp [fixLine_eq, markup?]
  rw [detailLines, List.filterMap_append, hfix, hnotes, printedDetails]
  cases d.fix with
  | none => simp
  | some fix => simp

theorem filterMap_fileBlocks (verbose : Bool) (file : String) (ds : List Diagnostic) :
    (fileBlocks verbose file ds).filterMap markup? =
      String.ofList (source [] (headingMarks file)) ::
        if verbose then (ds.flatMap printedDetails).map (·.1) else [] := by
  have hfirst : ([.blank, .line (String.ofList (source [] (headingMarks file))),
      .table (diagnosticTable ds)] : List Block).filterMap markup? =
        [String.ofList (source [] (headingMarks file))] := rfl
  rw [fileBlocks, heading_eq, List.filterMap_append, hfirst]
  cases verbose with
  | false => simp
  | true => simp [List.filterMap_flatMap, filterMap_detailLines, List.map_flatMap]

theorem filterMap_diagnostics (verbose : Bool) (ds : List Diagnostic) :
    (diagnostics verbose ds).filterMap markup? = (printed verbose ds).map (·.1) := by
  by_cases hempty : ds = []
  · subst hempty
    rfl
  · rw [diagnostics, if_neg (by simpa using hempty), groupByFile_eq, List.filterMap_append,
      List.flatMap_map, List.filterMap_flatMap]
    simp only [filterMap_fileBlocks, printed, List.map_flatMap]
    cases verbose with
    | false => simp [markup?]
    | true => simp [markup?, List.map_flatMap]

theorem plainLines_eq (verbose : Bool) (ds : List Diagnostic) :
    plainLines verbose ds = (printed verbose ds).map (·.2) := by
  have hdetails : ∀ d : Diagnostic, (d.fix.map (plainFix d)).toList ++ d.notes.map plainNote =
      (printedDetails d).map (·.2) := by
    intro d
    rw [printedDetails]
    cases d.fix with
    | none => simp
    | some fix => simp
  simp only [plainLines, printed, hdetails, List.map_flatMap]
  cases verbose with
  | false => simp
  | true => simp [List.map_flatMap]

/-- What holds of all lines of a report, told by diagnostic. -/
theorem forall_printed {P : String × List Char → Prop} {verbose : Bool} {ds : List Diagnostic} :
    (∀ line ∈ printed verbose ds, P line) ↔
      ∀ d ∈ ds, P (String.ofList (source [] (headingMarks d.file)), d.file.toList) ∧
        (verbose = true → ∀ line ∈ printedDetails d, P line) := by
  constructor
  · intro h d hd
    have hfile : d.file ∈ filesOf ds := mem_filesOf.mpr ⟨d, hd, rfl⟩
    refine ⟨h _ (List.mem_flatMap.mpr ⟨_, hfile, List.mem_cons_self⟩), ?_⟩
    intro hverbose line hline
    have hmem : d ∈ inFile ds d.file := List.mem_filter.mpr ⟨hd, by simp⟩
    refine h _ (List.mem_flatMap.mpr ⟨_, hfile, List.mem_cons_of_mem _ ?_⟩)
    rw [if_pos hverbose]
    exact List.mem_flatMap.mpr ⟨d, hmem, hline⟩
  · intro h line hline
    obtain ⟨file, hfile, hline⟩ := List.mem_flatMap.mp hline
    rcases List.mem_cons.mp hline with rfl | hline
    · obtain ⟨d, hd, rfl⟩ := mem_filesOf.mp hfile
      exact (h d hd).1
    · split at hline
      · next hverbose =>
        obtain ⟨d, hd, hline⟩ := List.mem_flatMap.mp hline
        exact (h d (List.mem_filter.mp hd).1).2 hverbose line hline
      · cases hline

theorem forall_printedDetails {P : String × List Char → Prop} {d : Diagnostic} :
    (∀ line ∈ printedDetails d, P line) ↔
      (∀ fix ∈ d.fix, P (String.ofList (source indentation (fixMarks d fix)), plainFix d fix)) ∧
        ∀ n ∈ d.notes, P (String.ofList (source indentation (noteMarks n)), plainNote n) := by
  rw [printedDetails, List.forall_mem_append]
  cases d.fix with
  | none => simp
  | some fix => simp

/-! ### Which texts are kept -/

/-- The texts that the lines for a diagnostic are made of. -/
def lineTexts (verbose : Bool) (d : Diagnostic) : List String :=
  d.file :: if verbose then
    (d.fix.toList.flatMap fun fix => [fix.description, Text.quoted fix.replacement])
      ++ d.notes.map (·.message)
  else []

/-- A diagnostic whose lines show their texts. -/
def Kept (verbose : Bool) (d : Diagnostic) : Prop :=
  (∀ s ∈ lineTexts verbose d, inert s.toList = true) ∧ d.file.toList.getLast? ≠ some '\\'

theorem kept_iff {verbose : Bool} {d : Diagnostic} :
    Kept verbose d ↔
      (inert d.file.toList = true ∧ d.file.toList.getLast? ≠ some '\\') ∧
        (verbose = true →
          (∀ fix ∈ d.fix, inert fix.description.toList = true ∧
            inert (Text.quoted fix.replacement).toList = true) ∧
          ∀ n ∈ d.notes, inert n.message.toList = true) := by
  rw [Kept, lineTexts, List.forall_mem_cons, and_assoc, and_assoc]
  refine and_congr_right fun _ => ?_
  rw [and_comm]
  refine and_congr_right fun _ => ?_
  cases verbose with
  | false => simp
  | true =>
    simp only [if_true, List.forall_mem_append, true_implies]
    cases d.fix with
    | none => simp
    | some fix => simp

theorem shows_printed_iff (verbose : Bool) (ds : List Diagnostic) :
    (∀ line ∈ printed verbose ds, Shows line.1 line.2) ↔ ∀ d ∈ ds, Kept verbose d := by
  rw [forall_printed]
  refine forall₂_congr fun d _ => ?_
  simp only [forall_printedDetails, shows_heading_iff, shows_fix_iff, shows_note_iff, kept_iff]

end Report

end TreeLint
