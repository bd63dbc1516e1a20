/-
  TreeLint/Report.lean
  ====================
  **Reports for readers.**  Diagnostics are shown file by file, in the order in which the files first
  occur, each file with a table of its findings in their order; then a summary counts them by severity.
  On request the fixes and notes of a file follow its table.  Rules are shown as one table.
-/
import TreeLint.Console.Layout
import TreeLint.Rule

namespace TreeLint.Report

open Console Data

def severityStyle : Severity → String
  | .error => "bold red"
  | .warning => "bold yellow"
  | .info => "bold blue"

def severityCell (s : Severity) : Cell := .styled s.label (severityStyle s)

/-! ### Diagnostics by file -/

/-- Adds a diagnostic to the group of its file, which is opened at the end if it is new. -/
def addToGroup (groups : Entries (List Diagnostic)) (d : Diagnostic) : Entries (List Diagnostic) :=
  Entries.set d.file ((Entries.get? d.file groups).getD [] ++ [d]) groups

/-- Diagnostics by file, files in order of first occurrence. -/
def groupByFile (ds : List Diagnostic) : Entries (List Diagnostic) := ds.foldl addToGroup []

def diagnosticTable (ds : List Diagnostic) : Table where
  title := none
  headerStyle := "bold magenta"
  frame := .simple
  columns :=
    [{ header := "Line", justify := .right, style := "dim", width := some 5,
       cells := ds.map fun d => .markup (toString d.location.line) },
     { header := "Col", justify := .right, style := "dim", width := some 4,
       cells := ds.map fun d => .markup (toString d.location.column) },
     { header := "Severity", width := some 8, cells := ds.map fun d => severityCell d.severity },
     { header := "Rule", style := "dim", cells := ds.map fun d => .markup d.rule },
     { header := "Message", cells := ds.map fun d => .markup d.message }]

def fixLine (d : Diagnostic) (fix : Fix) : Block :=
  .line ("  [dim]" ++ toString d.location.line ++ ":" ++ toString d.location.column
    ++ " fix:[/dim] " ++ fix.description ++ " -> [green]" ++ Text.quoted fix.replacement
    ++ "[/green]")

def noteLine (n : Note) : Block := .line ("  [dim]note:[/dim] " ++ n.message)

def detailLines (d : Diagnostic) : List Block :=
  (d.fix.map (fixLine d)).toList ++ d.notes.map noteLine

def fileBlocks (verbose : Bool) (file : String) (ds : List Diagnostic) : List Block :=
  [.blank, .line ("[bold cyan]" ++ file ++ "[/bold cyan]"), .table (diagnosticTable ds)]
    ++ (if verbose then ds.flatMap detailLines else [])

/-! ### Summary -/

def countOf (ds : List Diagnostic) (s : Severity) : Nat := ds.countP (·.severity == s)

/-- The severities that occur, from the greatest to the least, with their counts. -/
def severityCounts (ds : List Diagnostic) : List (Severity × Nat) :=
  (Severity.all.reverse.map fun s => (s, countOf ds s)).filter (·.2 != 0)

def summaryText (ds : List Diagnostic) : String :=
  let total := "[bold]" ++ toString ds.length ++ " diagnostic"
    ++ (if ds.length = 1 then "" else "s") ++ "[/bold]"
  let parts := (severityCounts ds).map fun (s, n) =>
    "[" ++ severityStyle s ++ "]" ++ toString n ++ " " ++ s.name ++ "[/]"
  " | ".intercalate (total :: parts)

/-- The summary panel, red when there is an error among the diagnostics. -/
def summaryPanel (ds : List Diagnostic) : Panel where
  body := summaryText ds
  title := "Summary"
  borderStyle := if countOf ds .error = 0 then "yellow" else "red"
  frame := .rounded

/-! ### Reports -/

def cleanPanel : Panel where
  body := "[green]No issues found.[/green]"
  title := "serverlint"
  borderStyle := "green"
  frame := .rounded

def diagnostics (verbose : Bool) (ds : List Diagnostic) : List Block :=
  if ds.isEmpty then [.panel cleanPanel]
  else
    (groupByFile ds).flatMap (fun (file, group) => fileBlocks verbose file group)
      ++ [.blank, .panel (summaryPanel ds)]

structure Listing where
  identifier : String
  category : Category
  severity : Severity
  name : String

def Listing.ofInfo (i : RuleInfo) : Listing := ⟨i.identifier, i.category, i.defaultSeverity, i.name⟩

def ruleTable (rules : List Listing) : Table where
  title := some "Rules"
  headerStyle := "bold cyan"
  frame := .rounded
  columns :=
    [{ header := "Identifier", style := "bold", cells := rules.map fun r => .markup r.identifier },
     { header := "Category", cells := rules.map fun r => .markup r.category.name },
     { header := "Default", width := some 8, cells := rules.map fun r => severityCell r.severity },
     { header := "Name", cells := rules.map fun r => .markup r.name }]

def ruleList (rules : List Listing) : List Block := [.table (ruleTable rules)]

end TreeLint.Report
