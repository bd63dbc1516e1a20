/-
  TreeLint/Proofs/ModulePaths.lean
  ================================
  **Which module an import names.**  The path of an import is the text of its last identifier or, where it
  has none, the tokens after the keyword put together (`PathFrom`).  In both cases the blanks around are
  trimmed.  Tokens that come to nothing are no path.  An identifier that comes to nothing is one, and this
  is what a parser leaves where it expects an identifier and finds none.

  So a path is a proper name, except where the last identifier has no visible text, and there it is empty
  (`PathFrom.named`).  The diagnostics of the rule name the paths of their imports and no others, so some
  of them name nothing (`diagnostic_names_nothing`).

  Nothing is asked of the tree.  Where the content of an import cannot be found the rule fails, and there
  are no diagnostics to speak of; what it returns otherwise are its reports (`reports_of_lint`).
-/
import TreeLint.Proofs.ImportFindings
import TreeLint.Proofs.TrimmedText

namespace TreeLint.PublicImport

open Text

variable {s : Source} {n i : Node} {path : List Char}

/-! ### Where a path comes from -/

/-- The last of a node's children that is an identifier. -/
def IsLastIdentifier (n i : Node) : Prop :=
  ∃ before after, n.children = before ++ i :: after ∧ i.kind = "identifier" ∧
    ∀ c ∈ after, c.kind ≠ "identifier"

/-- The texts of the tokens that belong to a path, one after the other. -/
def joined (s : Source) (tokens : List Node) : List Char :=
  (tokens.filter isPathToken).flatMap (·.trimmedText s)

/-- The two ways to a path: from the last identifier, or from the tokens after the first keyword. -/
inductive PathFrom (s : Source) (n : Node) : List Char → Prop
  | identifier {i : Node} (hi : IsLastIdentifier n i) : PathFrom s n (i.trimmedText s)
  | tokens {before after : List Node} {keyword : Node}
      (hnone : ∀ c ∈ n.children, c.kind ≠ "identifier")
      (hchildren : n.children = before ++ keyword :: after) (hkeyword : keyword.kind = "import")
      (hbefore : ∀ c ∈ before, c.kind ≠ "import") (hjoined : joined s after ≠ []) :
      PathFrom s n (joined s after)

theorem find?_reverse_eq_some_iff :
    n.children.reverse.find? (·.kind == "identifier") = some i ↔ IsLastIdentifier n i := by
  rw [List.find?_eq_some_iff_append]
  constructor
  · rintro ⟨hkind, after, before, hreverse, hafter⟩
    refine ⟨before.reverse, after.reverse, ?_, by simpa using hkind, ?_⟩
    · rw [← List.reverse_reverse n.children, hreverse]
      simp
    · intro c hc
      simpa using hafter c (List.mem_reverse.mp hc)
  · rintro ⟨before, after, hchildren, hkind, hafter⟩
    refine ⟨by simpa using hkind, after.reverse, before.reverse, by simp [hchildren], ?_⟩
    intro c hc
    simpa using hafter c (List.mem_reverse.mp hc)

theorem find?_reverse_eq_none_iff :
    n.children.reverse.find? (·.kind == "identifier") = none ↔
      ∀ c ∈ n.children, c.kind ≠ "identifier" := by
  simp

theorem modulePath_of_identifier (hi : IsLastIdentifier n i) :
    modulePath s n = some (i.trimmedText s) := by
  rw [modulePath, find?_reverse_eq_some_iff.mpr hi]

theorem modulePath_of_tokens {before after : List Node} {keyword : Node}
    (hnone : ∀ c ∈ n.children, c.kind ≠ "identifier")
    (hchildren : n.children = before ++ keyword :: after) (hkeyword : keyword.kind = "import")
    (hbefore : ∀ c ∈ before, c.kind ≠ "import") :
    modulePath s n = if joined s after = [] then none else some (joined s after) := by
  have hdrop : n.children.dropWhile (·.kind != "import") = keyword :: after := by
    rw [hchildren]
    refine (runs_append ?_ ?_).2
    · intro c hc
      simpa using hbefore c hc
    · intro c hc
      obtain rfl := Option.some.inj hc
      simpa using hkeyword
  simp only [modulePath, find?_reverse_eq_none_iff.mpr hnone, hdrop]
  split
  · next hempty => exact (if_pos hempty).symm
  · next hempty => exact (if_neg hempty).symm

theorem modulePath_of_no_keyword (hnone : ∀ c ∈ n.children, c.kind ≠ "identifier")
    (hkeyword : ∀ c ∈ n.children, c.kind ≠ "import") : modulePath s n = none := by
  have hdrop : n.children.dropWhile (·.kind != "import") = [] :=
    List.dropWhile_eq_nil_iff.mpr fun c hc => by simpa using hkeyword c hc
  simp only [modulePath, find?_reverse_eq_none_iff.mpr hnone, hdrop]

theorem modulePath_eq_some_iff : modulePath s n = some path ↔ PathFrom s n path := by
  constructor
  · intro hpath
    cases hlast : n.children.reverse.find? (·.kind == "identifier") with
    | some i =>
      have hi := find?_reverse_eq_some_iff.mp hlast
      rw [modulePath_of_identifier hi] at hpath
      obtain rfl := Option.some.inj hpath
      exact .identifier hi
    | none =>
      have hnone := find?_reverse_eq_none_iff.mp hlast
      by_cases hkeyword : ∀ c ∈ n.children, c.kind ≠ "import"
      · rw [modulePath_of_no_keyword hnone hkeyword] at hpath
        cases hpath
      · -- the first keyword, and what stands on both sides of it
        obtain ⟨keyword, hfirst⟩ : ∃ keyword, n.children.find? (·.kind == "import") = some keyword := by
          apply Option.isSome_iff_exists.mp
          simpa using hkeyword
        obtain ⟨hkind, before, after, hchildren, hbefore⟩ := List.find?_eq_some_iff_append.mp hfirst
        have hkind : keyword.kind = "import" := by simpa using hkind
        have hbefore : ∀ c ∈ before, c.kind ≠ "import" := by simpa using hbefore
        rw [modulePath_of_tokens hnone hchildren hkind hbefore] at hpath
        split at hpath
        · cases hpath
        · next hjoined =>
          obtain rfl := Option.some.inj hpath
          exact .tokens hnone hchildren hkind hbefore hjoined
  · intro hpath
    cases hpath with
    | identifier hi => exact modulePath_of_identifier hi
    | tokens hnone hchildren hkeyword hbefore hjoined =>
      rw [modulePath_of_tokens hnone hchildren hkeyword hbefore, if_neg hjoined]

/-! ### Proper names -/

/-- A text that can stand for a module: there is something, and no blanks around it. -/
structure IsName (path : List Char) : Prop where
  nonempty : path ≠ []
  bare : Bare path

/-- The last identifier of an import has no visible text. -/
def BlankIdentifier (s : Source) (n : Node) : Prop :=
  ∃ i, IsLastIdentifier n i ∧ AllBlank (Utf8.decode (i.bytes s))

/-- A proper name, unless the last identifier is blank; then nothing. -/
def Named (s : Source) (n : Node) (path : List Char) : Prop :=
  (IsName path ∧ ¬ BlankIdentifier s n) ∨ (path = [] ∧ BlankIdentifier s n)

theorem IsLastIdentifier.unique {j : Node} (hi : IsLastIdentifier n i) (hj : IsLastIdentifier n j) :
    i = j := by
  rw [← find?_reverse_eq_some_iff] at hi hj
  exact Option.some.inj (hi.symm.trans hj)

theorem PathFrom.named (h : PathFrom s n path) : Named s n path := by
  cases h with
  | @identifier i hi =>
    by_cases hempty : i.trimmedText s = []
    · exact Or.inr ⟨hempty, i, hi, trim_eq_nil_iff.mp hempty⟩
    · refine Or.inl ⟨⟨hempty, bare_trim _⟩, ?_⟩
      rintro ⟨j, hj, hblank⟩
      obtain rfl := hi.unique hj
      exact hempty (trim_eq_nil_iff.mpr hblank)
  | tokens hnone hchildren hkeyword hbefore hjoined =>
    refine Or.inl ⟨⟨hjoined, Bare.flatMap (fun t => bare_trim _) _⟩, ?_⟩
    rintro ⟨i, ⟨before, after, hsplit, hkind, -⟩, -⟩
    exact hnone i (by rw [hsplit]; simp) hkind

/-! ### What diagnostics name -/

/-- A diagnostic of the rule that names a path, in one of its two wordings. -/
def Names (d : Diagnostic) (path : List Char) : Prop := ∃ leak : Leak, d.message = leak.message path

/-- The two wordings do not begin alike. -/
theorem message_ne (marker modifier : Node) (path path' : List Char) :
    (Leak.reexported marker).message path ≠ (Leak.visible modifier).message path' := by
  intro h
  have hreexported : "@_exported import '".toList.head? = some '@' := by simp
  have hvisible : "public import '".toList.head? = some 'p' := by simp
  have hhead := congrArg (fun text => text.toList.head?) h
  dsimp only [Leak.message] at hhead
  rw [String.toList_append, String.toList_append, String.toList_append, String.toList_append,
    List.head?_append, List.head?_append, List.head?_append, List.head?_append, hreexported,
    hvisible] at hhead
  exact absurd hhead (by simp)

theorem message_injective {leak leak' : Leak} {path path' : List Char}
    (h : leak.message path = leak'.message path') : path = path' := by
  have hsame : ∀ before after : String,
      before ++ String.ofList path ++ after = before ++ String.ofList path' ++ after →
        path = path' := by
    intro before after heq
    rwa [String.append_left_inj, String.append_right_inj, String.ofList_inj] at heq
  cases leak with
  | reexported marker =>
    cases leak' with
    | reexported marker' => exact hsame _ _ h
    | visible modifier' => exact absurd h (message_ne marker modifier' path path')
  | visible modifier =>
    cases leak' with
    | reexported marker' => exact absurd h.symm (message_ne marker' modifier path' path)
    | visible modifier' => exact hsame _ _ h

theorem Reports.names {severity : Severity} {c : Context} {d : Diagnostic}
    (hd : Reports severity c n d) :
    ∃ path, PathFrom c.source n path ∧ ∀ p, Names d p ↔ p = path := by
  obtain ⟨path, leak, hpath, hmessage⟩ : ∃ path, ∃ leak : Leak,
      modulePath c.source n = some path ∧ d.message = leak.message path := by
    cases hd with
    | @reexported path content marker hpath hcontent hmarker =>
      exact ⟨path, .reexported marker, hpath, rfl⟩
    | @visible path content modifier hpath hcontent hnone hmodifier =>
      exact ⟨path, .visible modifier, hpath, rfl⟩
  refine ⟨path, modulePath_eq_some_iff.mp hpath, ?_⟩
  intro p
  constructor
  · rintro ⟨leak', hleak'⟩
    exact message_injective (hleak'.symm.trans hmessage)
  · rintro rfl
    exact ⟨leak, hmessage⟩

/-! ### What the rule returns on any tree -/

section AnyTree

variable (severity : Severity) (c : Context)

theorem visit_of_no_content {cause : SpanError} (hn : isFlagged c.source n = true)
    (hcontent : c.source.contentSpan n = .error cause) (state : inspector.Progress) :
    (inspector.visitor (reporter severity) c n state).answer = .error (.span cause) := by
  obtain ⟨hnamed, hkind, path, leak, hpath, hleak⟩ := (isFlagged_iff c.source n).mp hn
  obtain ⟨own, found⟩ := state
  have hinspect : inspect c n own = ⟨[], .error (.span cause), own⟩ := by
    simp only [inspect, hpath, hleak, hcontent]
  rw [visitor_of_import severity c hnamed hkind, handle_of_diagnosed hinspect rfl]

theorem visit_goes_on (hn : isFlagged c.source n = true) (state : inspector.Progress) :
    (inspector.visitor (reporter severity) c n state).answer ≠ .ok (some .halt) := by
  cases hcontent : c.source.contentSpan n with
  | error cause =>
    rw [visit_of_no_content severity c hn hcontent]
    simp
  | ok content =>
    obtain ⟨own, found⟩ := state
    obtain ⟨d, -, hvisit⟩ := visit_of_flagged severity c hn hcontent own found
    rw [hvisit]
    simp

/-- Where the rule returns diagnostics, they are its reports: an import without a content would have ended
the walk. -/
theorem reports_of_lint (settings : Option Settings) {found : List Diagnostic}
    (hfound : ((definition.create settings).lint c).value = .ok found) :
    List.Forall₂ (Reports (severityUnder settings) c) (reported c.source c.root) found := by
  have hspans : ∀ n ∈ reported c.source c.root,
      ∃ content, c.source.contentSpan n = .ok content := by
    intro n hn
    cases hcontent : c.source.contentSpan n with
    | ok content => exact ⟨content, rfl⟩
    | error cause =>
      have hflagged : isFlagged c.source n = true := (Node.mem_outermost hn).2
      have hpending : n ∈ [c.root].flatMap (Node.outermost (isFlagged c.source)) := by
        rwa [List.flatMap_singleton]
      obtain ⟨reason, hfailed⟩ := Walk.run_fails
        (visit_of_not_flagged (severityUnder settings) c)
        (fun m state hm => visit_goes_on (severityUnder settings) c hm state) hpending
        (fun state => ⟨_, visit_of_no_content (severityUnder settings) c hflagged hcontent state⟩)
        (inspector.initial, [])
      have hending : (inspector.walk (reporter (severityUnder settings)) c).ending =
          .failed reason := hfailed
      rw [lint_eq_findings, Inspector.findings, hending] at hfound
      cases hfound
  obtain ⟨found', hreports, hstate, hending⟩ := walk_reports (severityUnder settings) c hspans
  rw [lint_of_walk settings c hstate hending] at hfound
  rwa [← Except.ok.inj hfound]

end AnyTree

/-- **An import names a module, unless its last identifier is blank.**  For all sources, of any bytes, and
all trees:

1. A path comes from the last identifier of an import, or from the tokens after the keyword.  It is not
   empty and has no blanks around it, except where the last identifier has no visible text, and there it
   is empty.
2. Each diagnostic that the rule returns names the path of its import and no other, so it names nothing
   exactly where the last identifier is blank. -/
theorem lint_names_paths (settings : Option Settings) (c : Context) :
    (∀ n path, (modulePath c.source n = some path ↔ PathFrom c.source n path) ∧
      (PathFrom c.source n path → Named c.source n path)) ∧
    ∀ found, ((definition.create settings).lint c).value = .ok found →
      List.Forall₂ (fun n d => ∃ path, PathFrom c.source n path ∧ Named c.source n path ∧
        ∀ p, Names d p ↔ p = path) (reported c.source c.root) found := by
  constructor
  · intro n path
    exact ⟨modulePath_eq_some_iff, PathFrom.named⟩
  · intro found hfound
    refine (reports_of_lint c settings hfound).imp ?_
    intro n d hd
    obtain ⟨path, hpath, hnames⟩ := hd.names
    exact ⟨path, hpath, hpath.named, hnames⟩

/-- An import without a module, for which the parser has put an identifier of no width. -/
def missingImport : Node :=
  ⟨"import_declaration", 0, 13, true,
    [⟨"modifiers", 0, 6, true, [⟨"visibility_modifier", 0, 6, true, []⟩]⟩,
      ⟨"import", 7, 13, false, []⟩,
      ⟨"identifier", 13, 13, true, [⟨"simple_identifier", 13, 13, true, []⟩]⟩]⟩

/-- An import with tokens after the keyword and no identifier. -/
def brokenImport : Node :=
  ⟨"import_declaration", 14, 31, true,
    [⟨"modifiers", 14, 18, true, [⟨"visibility_modifier", 14, 18, true, []⟩]⟩,
      ⟨"import", 19, 25, false, []⟩, ⟨"ERROR", 26, 28, true, []⟩, ⟨".", 28, 29, false, []⟩,
      ⟨"ERROR", 29, 31, true, []⟩]⟩

/-- A file with both, and an import of a module by its name. -/
def missingContext : Context where
  file := "Sources/Missing.swift"
  source := Source.ofString "public import\nopen import A . B\npublic import C\n"
  parse := ⟨⟨"source_file", 0, 48, true,
    [missingImport, brokenImport,
      ⟨"import_declaration", 32, 47, true,
        [⟨"modifiers", 32, 38, true, [⟨"visibility_modifier", 32, 38, true, []⟩]⟩,
          ⟨"import", 39, 45, false, []⟩, ⟨"identifier", 46, 47, true, []⟩]⟩]⟩, true⟩
  settings := {}

theorem messages_missingContext :
    ((definition.create none).lint missingContext).value.map
        (fun found => found.map Diagnostic.message) =
      .ok ["public import '' leaks dependency to consumers. Use internal or package import.",
        "public import 'A.B' leaks dependency to consumers. Use internal or package import.",
        "public import 'C' leaks dependency to consumers. Use internal or package import."] := by
  decide +kernel

theorem exists_found_missingContext :
    ∃ found, ((definition.create none).lint missingContext).value = .ok found ∧
      ∃ d ∈ found, Names d [] := by
  have hmessages := messages_missingContext
  cases hvalue : ((definition.create none).lint missingContext).value with
  | error cause =>
    rw [hvalue] at hmessages
    cases hmessages
  | ok found =>
    rw [hvalue] at hmessages
    obtain ⟨d, rest, rfl, hmessage, -⟩ := List.map_eq_cons_iff.mp (Except.ok.inj hmessages)
    exact ⟨d :: rest, rfl, d, List.mem_cons_self, .visible missingImport, hmessage⟩

theorem lint_names_paths_sample :
    Named missingContext.source missingImport [] ∧
      Named missingContext.source brokenImport "A.B".toList ∧
      ∃ found, ((definition.create none).lint missingContext).value = .ok found ∧
        List.Forall₂ (fun n d => ∃ path, PathFrom missingContext.source n path ∧
          Named missingContext.source n path ∧ ∀ p, Names d p ↔ p = path)
          (reported missingContext.source missingContext.root) found := by
  obtain ⟨hpaths, hlint⟩ := lint_names_paths none missingContext
  obtain ⟨found, hfound, -⟩ := exists_found_missingContext
  refine ⟨?_, ?_, found, hfound, hlint found hfound⟩
  · obtain ⟨hiff, hnamed⟩ := hpaths missingImport []
    exact hnamed (hiff.mp (by decide))
  · obtain ⟨hiff, hnamed⟩ := hpaths brokenImport "A.B".toList
    exact hnamed (hiff.mp (by decide))

/-- A well-formed tree can have an import that names nothing, and the rule reports it so. -/
theorem diagnostic_names_nothing :
    (¬ ∀ (s : Source) (n : Node), n.kind = "import_declaration" →
        ∀ path, modulePath s n = some path → IsName path) ∧
      missingContext.root.WellFormed missingContext.source ∧
      ∃ found, ((definition.create none).lint missingContext).value = .ok found ∧
        ∃ d ∈ found, Names d [] := by
  refine ⟨?_, by decide, exists_found_missingContext⟩
  intro h
  exact (h missingContext.source missingImport rfl [] (by decide)).nonempty rfl

end TreeLint.PublicImport
