/-
  TreeLint/Proofs/ReportText.lean
  ===============================
  **What a report shows of the texts in it.**  A report is drawn to its end if all its markup can be read
  and all that it shows can be cut.  The report's own texts always can.  Of the texts that are put into it,
  those of lines have to be inert, since lines show them as they are; rules and messages stand in cells
  and have to be readable only.

  Each line that is printed then has the characters of its texts, blanks aside, which wrapping may drop.

  The main statement is `report_keeps_texts`; `report_spoiled_by_paths` shows what other texts do.
-/
import TreeLint.Proofs.ReportLines
import TreeLint.Proofs.Wrapping

namespace TreeLint

open Console Console.Markup

namespace Console

/-! ### Markup that can be drawn -/

theorem readable_source {lead : List Char} {ms : List Marked}
    (hpairs : ∀ m ∈ ms, isPair m.style m.closing = true) (hseparate : Separate lead ms)
    (hinert : ∀ t ∈ texts lead ms, inert t = true) (hsteady : ∀ t ∈ texts lead ms, Steady t) :
    Readable (String.ofList (source lead ms)) := by
  obtain ⟨spans, hread, hfaults⟩ := read_source hpairs hseparate hinert
  refine ⟨_, hread, ?_, hfaults⟩
  intro c hc
  obtain ⟨t, ht, hmem⟩ := List.mem_flatten.mp hc
  exact hsteady t ht c hmem

theorem separate_of_ordinary {lead : List Char} {ms : List Marked}
    (h : ∀ t ∈ texts lead ms, Ordinary t) : Separate lead ms := by
  induction ms generalizing lead with
  | nil => trivial
  | cons m ms ih =>
    simp only [texts, List.forall_mem_cons] at h
    exact ⟨h.1.getLast?, h.2.1.getLast?, ih h.2.2⟩

theorem readable_of_ordinary_texts {lead : List Char} {ms : List Marked}
    (hpairs : ∀ m ∈ ms, isPair m.style m.closing = true) (h : ∀ t ∈ texts lead ms, Ordinary t) :
    Readable (String.ofList (source lead ms)) :=
  readable_source hpairs (separate_of_ordinary h) (fun t ht => (h t ht).inert)
    fun t ht => (h t ht).steady

theorem readable_of_ordinary {s : String} (h : Ordinary s.toList) : Readable s := by
  have hread : Readable (String.ofList (source s.toList [])) :=
    readable_of_ordinary_texts (by simp) (by simpa [texts] using h)
  rwa [source, String.ofList_toList] at hread

end Console

namespace Report

/-! ### Which reports are drawn -/

/-- A diagnostic whose lines show their texts, and all of whose texts can be drawn. -/
structure Drawable (verbose : Bool) (d : Diagnostic) : Prop where
  kept : Kept verbose d
  readable : ∀ s ∈ [d.rule, d.message], Readable s
  steady : ∀ s ∈ lineTexts verbose d, Steady s.toList

theorem readable_heading {file : String} (hinert : inert file.toList = true)
    (hlast : file.toList.getLast? ≠ some '\\') (hsteady : Steady file.toList) :
    Readable (String.ofList (source [] (headingMarks file))) := by
  apply readable_source
  · simpa [headingMarks, marked] using isPair_of_mem ("bold cyan", "/bold cyan") (by decide)
  · exact ⟨ordinary_nil.getLast?, hlast, trivial⟩
  · simpa [headingMarks, marked, texts] using ⟨ordinary_nil.inert, hinert, ordinary_nil.inert⟩
  · simpa [headingMarks, marked, texts] using ⟨ordinary_nil.steady, hsteady, ordinary_nil.steady⟩

theorem readable_fix {d : Diagnostic} {fix : Fix}
    (hinert : inert fix.description.toList = true ∧ inert (Text.quoted fix.replacement).toList = true)
    (hdescription : Steady fix.description.toList)
    (hquoted : Steady (Text.quoted fix.replacement).toList) :
    Readable (String.ofList (source indentation (fixMarks d fix))) := by
  refine readable_source (pairs_fix d fix) (separate_fix d fix) ((inert_fix_iff d fix).mpr hinert) ?_
  have harrow : Ordinary " -> ".toList := by decide
  simp only [fixMarks, marked, texts, List.forall_mem_cons, String.toList_append]
  exact ⟨ordinary_indentation.steady, (clear_fixLabel d).steady,
    (ordinary_space.steady.append hdescription).append harrow.steady, hquoted, ordinary_nil.steady, by simp⟩

theorem readable_note {n : Note} (hinert : inert n.message.toList = true)
    (hsteady : Steady n.message.toList) :
    Readable (String.ofList (source indentation (noteMarks n))) := by
  refine readable_source (pairs_note n) (separate_note n) ((inert_note_iff n).mpr hinert) ?_
  simp only [noteMarks, marked, texts, List.forall_mem_cons, String.toList_append]
  exact ⟨ordinary_indentation.steady, clear_noteLabel.steady, ordinary_space.steady.append hsteady,
    by simp⟩

theorem readable_printed {verbose : Bool} {ds : List Diagnostic} (h : ∀ d ∈ ds, Drawable verbose d) :
    ∀ line ∈ printed verbose ds, Readable line.1 := by
  rw [forall_printed]
  intro d hd
  obtain ⟨hkept, -, hsteady⟩ := h d hd
  obtain ⟨⟨hfile, hlast⟩, hdetails⟩ := kept_iff.mp hkept
  simp only [lineTexts, List.forall_mem_cons] at hsteady
  obtain ⟨hfileSteady, hsteady⟩ := hsteady
  refine ⟨readable_heading hfile hlast hfileSteady, ?_⟩
  intro hverbose
  obtain ⟨hfix, hnotes⟩ := hdetails hverbose
  rw [if_pos hverbose] at hsteady
  rw [forall_printedDetails]
  constructor
  · intro fix hmem
    have htexts : ∀ s ∈ [fix.description, Text.quoted fix.replacement], Steady s.toList := by
      intro s hs
      exact hsteady s (List.mem_append_left _ (List.mem_flatMap.mpr ⟨fix, Option.mem_toList.mpr hmem, hs⟩))
    exact readable_fix (hfix fix hmem) (htexts _ (by simp)) (htexts _ (by simp))
  · intro n hn
    exact readable_note (hnotes n hn) (hsteady _ (List.mem_append_right _ (List.mem_map_of_mem hn)))

/-! ### Tables and panels -/

theorem readable_table {verbose : Bool} {ds : List Diagnostic} (h : ∀ d ∈ ds, Drawable verbose d) :
    (Block.table (diagnosticTable ds)).Readable := by
  have hheaders : ∀ s ∈ ["Line", "Col", "Severity", "Rule", "Message"], Readable s := by
    intro s hs
    apply readable_of_ordinary
    revert s
    decide
  have hlabel : ∀ d : Diagnostic, (severityCell d.severity).Readable := by
    intro d
    have hordinary : Ordinary d.severity.label.toList := by cases d.severity <;> decide
    exact hordinary.steady
  have hdigits : ∀ n : Nat, Readable (toString n) := fun n => readable_of_ordinary (ordinary_digits n)
  have hread : ∀ d ∈ ds, Readable d.rule ∧ Readable d.message := by
    intro d hd
    have hreadable := (h d hd).readable
    exact ⟨hreadable _ (by simp), hreadable _ (by simp)⟩
  simp only [List.forall_mem_cons] at hheaders
  obtain ⟨hline, hcol, hseverity, hrule, hmessage, -⟩ := hheaders
  refine ⟨by simp [diagnosticTable], ?_⟩
  simp only [diagnosticTable, List.forall_mem_cons, List.forall_mem_map]
  exact ⟨⟨hline, fun d _ => hdigits _⟩, ⟨hcol, fun d _ => hdigits _⟩, ⟨hseverity, fun d _ => hlabel d⟩,
    ⟨hrule, fun d hd => (hread d hd).1⟩, ⟨hmessage, fun d hd => (hread d hd).2⟩, by simp⟩

/-- Marked texts with a text between them. -/
def separated (between : List Char) : List Marked → List Marked
  | m :: n :: rest => { m with after := between } :: separated between (n :: rest)
  | few => few

theorem source_lead (lead : List Char) {ms : List Marked} (h : ms ≠ []) :
    source lead ms = lead ++ source [] ms := by
  cases ms with
  | nil => cases h rfl
  | cons m ms => simp [source]

theorem separated_ne_nil (between : List Char) (m : Marked) (ms : List Marked) :
    separated between (m :: ms) ≠ [] := by
  cases ms <;> simp [separated]

theorem source_separated {between : List Char} {ms : List Marked} (h : ∀ m ∈ ms, m.after = []) :
    source [] (separated between ms) = between.intercalate (ms.map fun m => source [] [m]) := by
  induction ms with
  | nil => rfl
  | cons m ms ih =>
    obtain ⟨hm, hms⟩ := List.forall_mem_cons.mp h
    cases ms with
    | nil => simp [separated]
    | cons n ms =>
      have hrest := ih hms
      rw [List.map_cons] at hrest
      rw [separated, source, source_lead between (separated_ne_nil between n ms), hrest, List.map_cons,
        List.map_cons, List.intercalate_cons_cons]
      simp [source, hm]

/-- The marks of the summary. -/
def summaryMarks (ds : List Diagnostic) : List Marked :=
  marked "bold" "/bold"
      (toString ds.length ++ " diagnostic" ++ (if ds.length = 1 then "" else "s")).toList []
    :: (severityCounts ds).map fun entry =>
      marked (severityStyle entry.1) "/" (toString entry.2 ++ " " ++ entry.1.name).toList []

theorem summaryText_eq (ds : List Diagnostic) :
    summaryText ds = String.ofList (source [] (separated " | ".toList (summaryMarks ds))) := by
  have hafter : ∀ m ∈ summaryMarks ds, m.after = [] := by
    simp only [summaryMarks, List.forall_mem_cons, List.forall_mem_map]
    exact ⟨rfl, fun _ _ => rfl⟩
  apply String.toList_injective
  rw [String.toList_ofList, source_separated hafter, summaryText, String.toList_intercalate]
  refine congrArg (List.intercalate " | ".toList) ?_
  simp [summaryMarks, marked, source]

theorem ordinary_separated {lead between : List Char} {ms : List Marked} (hlead : Ordinary lead)
    (hbetween : Ordinary between) (h : ∀ m ∈ ms, Ordinary m.text ∧ Ordinary m.after) :
    ∀ t ∈ texts lead (separated between ms), Ordinary t := by
  induction ms generalizing lead with
  | nil => simpa [separated, texts] using hlead
  | cons m ms ih =>
    obtain ⟨hm, hms⟩ := List.forall_mem_cons.mp h
    cases ms with
    | nil => simpa [separated, texts] using ⟨hlead, hm⟩
    | cons n ms =>
      rw [separated, texts]
      exact List.forall_mem_cons.mpr ⟨hlead, List.forall_mem_cons.mpr ⟨hm.1, ih hbetween hms⟩⟩

theorem pairs_separated {between : List Char} {ms : List Marked}
    (h : ∀ m ∈ ms, isPair m.style m.closing = true) :
    ∀ m ∈ separated between ms, isPair m.style m.closing = true := by
  induction ms with
  | nil => simp [separated]
  | cons m ms ih =>
    obtain ⟨hm, hms⟩ := List.forall_mem_cons.mp h
    cases ms with
    | nil => exact h
    | cons n ms =>
      rw [separated]
      exact List.forall_mem_cons.mpr ⟨hm, ih hms⟩

theorem readable_summary (ds : List Diagnostic) : (Block.panel (summaryPanel ds)).Readable := by
  have hbetween : Ordinary " | ".toList := by decide
  have htotal : Ordinary
      (toString ds.length ++ " diagnostic" ++ (if ds.length = 1 then "" else "s")).toList := by
    have hword : Ordinary " diagnostic".toList := by decide
    have hend : Ordinary (if ds.length = 1 then "" else "s").toList := by split <;> decide
    rw [String.toList_append, String.toList_append]
    exact ((ordinary_digits _).append hword).append hend
  have hpart : ∀ (s : Severity) (n : Nat), Ordinary (toString n ++ " " ++ s.name).toList := by
    intro s n
    have hname : Ordinary s.name.toList := by cases s <;> decide
    rw [String.toList_append, String.toList_append]
    exact ((ordinary_digits _).append ordinary_space).append hname
  have hstyle : ∀ s : Severity, isPair (severityStyle s).toList "/".toList = true := by
    intro s
    cases s with
    | info => exact isPair_of_mem ("bold blue", "/") (by decide)
    | warning => exact isPair_of_mem ("bold yellow", "/") (by decide)
    | error => exact isPair_of_mem ("bold red", "/") (by decide)
  have htitle : Ordinary "Summary".toList := by decide
  refine ⟨readable_of_ordinary htitle, ?_⟩
  change Readable (summaryText ds)
  rw [summaryText_eq]
  apply readable_of_ordinary_texts
  · apply pairs_separated
    simp only [summaryMarks, List.forall_mem_cons, List.forall_mem_map]
    exact ⟨isPair_of_mem ("bold", "/bold") (by decide), fun entry _ => hstyle entry.1⟩
  · apply ordinary_separated ordinary_nil hbetween
    simp only [summaryMarks, List.forall_mem_cons, List.forall_mem_map]
    exact ⟨⟨htotal, ordinary_nil⟩, fun entry _ => ⟨hpart entry.1 entry.2, ordinary_nil⟩⟩

theorem readable_clean : (Block.panel cleanPanel).Readable := by
  have hbody : cleanPanel.body =
      String.ofList (source [] [marked "green" "/green" "No issues found.".toList []]) := by
    apply String.toList_injective
    rw [String.toList_ofList]
    decide
  refine ⟨readable_of_ordinary (by decide), ?_⟩
  rw [hbody]
  apply readable_of_ordinary_texts
  · simpa [marked] using isPair_of_mem ("green", "/green") (by decide)
  · decide

theorem isLine_of_mem_detailLines {d : Diagnostic} {block : Block} (h : block ∈ detailLines d) :
    ∃ s, block = .line s := by
  rcases List.mem_append.mp h with h | h
  · obtain ⟨fix, -, rfl⟩ := Option.map_eq_some_iff.mp (Option.mem_toList.mp h)
    exact ⟨_, rfl⟩
  · obtain ⟨n, -, rfl⟩ := List.mem_map.mp h
    exact ⟨_, rfl⟩

theorem mem_diagnostics_cases {verbose : Bool} {ds : List Diagnostic} {block : Block}
    (h : block ∈ diagnostics verbose ds) :
    block = .blank ∨ (∃ s, block = .line s) ∨ block = .panel cleanPanel ∨
      block = .panel (summaryPanel ds) ∨ ∃ file, block = .table (diagnosticTable (inFile ds file)) := by
  unfold diagnostics at h
  split at h
  · rw [List.mem_singleton.mp h]
    exact .inr (.inr (.inl rfl))
  · rw [groupByFile_eq, List.flatMap_map] at h
    rcases List.mem_append.mp h with h | h
    · obtain ⟨file, -, h⟩ := List.mem_flatMap.mp h
      rcases List.mem_append.mp h with h | h
      · simp only [List.mem_cons, List.not_mem_nil, or_false] at h
        rcases h with rfl | rfl | rfl
        · exact .inl rfl
        · exact .inr (.inl ⟨_, rfl⟩)
        · exact .inr (.inr (.inr (.inr ⟨file, rfl⟩)))
      · split at h
        · obtain ⟨d, -, h⟩ := List.mem_flatMap.mp h
          exact .inr (.inl (isLine_of_mem_detailLines h))
        · cases h
    · simp only [List.mem_cons, List.not_mem_nil, or_false] at h
      rcases h with rfl | rfl
      · exact .inl rfl
      · exact .inr (.inr (.inr (.inl rfl)))

/-- Every block of a report on drawable diagnostics can be drawn. -/
theorem readable_diagnostics {verbose : Bool} {ds : List Diagnostic}
    (h : ∀ d ∈ ds, Drawable verbose d) : ∀ block ∈ diagnostics verbose ds, block.Readable := by
  intro block hblock
  rcases mem_diagnostics_cases hblock with rfl | ⟨s, rfl⟩ | rfl | rfl | ⟨file, rfl⟩
  · trivial
  · have hmem : s ∈ (diagnostics verbose ds).filterMap markup? :=
      List.mem_filterMap.mpr ⟨.line s, hblock, rfl⟩
    rw [filterMap_diagnostics] at hmem
    obtain ⟨line, hline, rfl⟩ := List.mem_map.mp hmem
    exact readable_printed h line hline
  · exact readable_clean
  · exact readable_summary ds
  · exact readable_table fun d hd => h d (List.mem_filter.mp hd).1

/-! ### Reports that keep their texts -/

/-- A line that a console prints with all the characters of a text that are not blank. -/
def Prints (console : Nat) (markup : String) (text : List Char) : Prop :=
  ∃ drawn, (Block.line markup).draw console = .ok drawn ∧ inked drawn = inked text

theorem prints_of_shows {console : Nat} {markup : String} {text : List Char} (hconsole : 2 ≤ console)
    (hreadable : Readable markup) (hshows : Shows markup text) (hfull : Full text) :
    Prints console markup text := by
  obtain ⟨t, hread, rfl⟩ := map_eq_ok_iff.mp hshows
  have hblock : (Block.line markup).Readable := hreadable
  obtain ⟨drawn, hdrawn, -⟩ := blockDraw_gives hblock console
  exact ⟨drawn, hdrawn, draw_line_inked hconsole hread hfull hdrawn⟩

/-- A report that is drawn to its end has lines that can be read. -/
theorem exists_read_of_drawAll {console : Nat} {blocks : List Block}
    (h : (drawAll console blocks).error = none) :
    ∀ markup ∈ blocks.filterMap markup?, ∃ t, Markup.read markup = .ok t := by
  intro markup hmarkup
  obtain ⟨block, hblock, hline⟩ := List.mem_filterMap.mp hmarkup
  have hdrawn : ∃ text, block.draw console = .ok text := by
    clear hmarkup hline
    induction blocks with
    | nil => cases hblock
    | cons first blocks ih =>
      rw [drawAll] at h
      split at h
      · cases h
      · next text htext =>
        rcases List.mem_cons.mp hblock with rfl | hblock
        · exact ⟨text, htext⟩
        · exact ih h hblock
  cases block with
  | line s =>
    obtain rfl := Option.some.inj hline
    obtain ⟨text, htext⟩ := hdrawn
    obtain ⟨lines, hlines, -⟩ := bind_eq_ok_iff.mp htext
    obtain ⟨t, ht, -⟩ := bind_eq_ok_iff.mp hlines
    cases hread : Markup.read s with
    | ok u => exact ⟨u, rfl⟩
    | error e =>
      rw [readMarkup, hread] at ht
      cases ht
  | blank => cases hline
  | panel p => cases hline
  | table t => cases hline

/-- **What a report shows of its texts.**

- Line by line it shows paths, fixes and notes as they are exactly when each of them is inert (it has no
  tag, no emoji code that is known, no backslash right before a bracket and no character that is never
  sent), and no path ends with a backslash.
- If moreover rules and messages can be read and styled, and nothing that is shown has a joiner or an emoji
  selector, it is drawn to its end on every console, and on one of two cells or more each line, if all its
  characters take cells, is printed with its characters in order, but for blanks.
- A line that cannot be read ends the report with an error, on every console. -/
theorem report_keeps_texts (verbose : Bool) (ds : List Diagnostic) :
    (List.Forall₂ Shows ((diagnostics verbose ds).filterMap markup?) (plainLines verbose ds) ↔
        ∀ d ∈ ds, Kept verbose d) ∧
      ((∀ d ∈ ds, Drawable verbose d) → ∀ console,
        (drawAll console (diagnostics verbose ds)).error = none ∧
          (2 ≤ console →
            List.Forall₂ (fun markup text => Full text → Prints console markup text)
              ((diagnostics verbose ds).filterMap markup?) (plainLines verbose ds))) ∧
      ∀ console, (drawAll console (diagnostics verbose ds)).error = none →
        ∀ markup ∈ (diagnostics verbose ds).filterMap markup?, ∃ t, Markup.read markup = .ok t := by
  refine ⟨?_, ?_, fun console => exists_read_of_drawAll⟩
  · rw [filterMap_diagnostics, plainLines_eq, List.forall₂_map_left_iff, List.forall₂_map_right_iff,
      List.forall₂_same, shows_printed_iff]
  · intro h console
    refine ⟨drawAll_error_eq_none (readable_diagnostics h) console, fun hconsole => ?_⟩
    have hshows := (shows_printed_iff verbose ds).mpr fun d hd => (h d hd).kept
    rw [filterMap_diagnostics, plainLines_eq, List.forall₂_map_left_iff, List.forall₂_map_right_iff,
      List.forall₂_same]
    intro line hline hfull
    exact prints_of_shows hconsole (readable_printed h line hline) (hshows line hline) hfull

/-- A diagnostic with a fix and a note, in a file with brackets in its name that make no tag, and with
colons that make no code that is known. -/
def bracketDiagnostic : Diagnostic where
  rule := "library-design.public-import"
  severity := .error
  message := "Module Foo is imported publicly"
  file := "Sources/[1].swift"
  location := ⟨1, 1, none, none⟩
  fix := some ⟨"Remove 'public'", "import Foo", none⟩
  notes := [⟨"seen in [A-Z] and init(x:y:)", none⟩]

theorem report_keeps_texts_sample :
    (∀ d ∈ [bracketDiagnostic], Drawable true d) ∧
      List.Forall₂ Shows ((diagnostics true [bracketDiagnostic]).filterMap markup?)
        (plainLines true [bracketDiagnostic]) ∧
      (drawAll 80 (diagnostics true [bracketDiagnostic])).error = none ∧
      List.Forall₂ (Prints 80) ((diagnostics true [bracketDiagnostic]).filterMap markup?)
        (plainLines true [bracketDiagnostic]) := by
  have hreadable : ∀ s ∈ [bracketDiagnostic.rule, bracketDiagnostic.message], Readable s := by
    intro s hs
    apply readable_of_ordinary
    revert s
    decide
  have hdrawable : Drawable true bracketDiagnostic :=
    ⟨⟨by decide +kernel, by decide⟩, hreadable, by decide⟩
  have hall : ∀ d ∈ [bracketDiagnostic], Drawable true d := List.forall_mem_singleton.mpr hdrawable
  have hfull : ∀ text ∈ plainLines true [bracketDiagnostic], Full text := by decide +kernel
  obtain ⟨hiff, hdrawn, -⟩ := report_keeps_texts true [bracketDiagnostic]
  obtain ⟨hend, hprints⟩ := hdrawn hall 80
  obtain ⟨hlength, hlines⟩ := List.forall₂_iff_zip.mp (hprints (by decide))
  refine ⟨hall, hiff.mpr fun d hd => (hall d hd).kept, hend, List.forall₂_iff_zip.mpr ⟨hlength, ?_⟩⟩
  intro markup text hmem
  exact hlines hmem (hfull text (List.of_mem_zip hmem).2)

/-- A diagnostic in a file. -/
def diagnosticIn (file : String) : Diagnostic where
  rule := "library-design.public-import"
  severity := .error
  message := "leak"
  file := file
  location := ⟨1, 1, none, none⟩
  fix := none
  notes := []

/-- A path with a closing tag in it ends the report, one with another tag loses it, one with a code shows
an emoji, and a backslash at the end of a path makes the report's own tag show. -/
theorem report_spoiled_by_paths :
    (drawAll 120 (diagnostics false [diagnosticIn "[/red].swift"])).error =
        some (.markup (.unmatched "/red" 11)) ∧
      (diagnostics false [diagnosticIn "[red].swift"]).filterMap markup? =
        ["[bold cyan][red].swift[/bold cyan]"] ∧
      Shows "[bold cyan][red].swift[/bold cyan]" ".swift".toList ∧
      Shows "[bold cyan]init(a:b:).swift[/bold cyan]" "init(a🅱).swift".toList ∧
      Shows "[bold cyan]A\\[/bold cyan]" "A[/bold cyan]".toList := by
  refine ⟨by decide +kernel, by decide +kernel, ?_, ?_, ?_⟩
  · simp only [Shows]
    decide +kernel
  · simp only [Shows]
    decide +kernel
  · simp only [Shows]
    decide +kernel

end Report

end TreeLint
