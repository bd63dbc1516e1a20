/-
  TreeLint/CommandLine/Run.lean
  =============================
  **Running a command.**  A run takes the words of the command line, the width of the console as the
  environment gives it and what each path leads to, and gives what is printed and the exit code.  Linting
  exits with 1 when a shown diagnostic is an error or when no rule is enabled, and with 0 otherwise.  The
  rules of this library run without a configuration of their own.
-/
import TreeLint.CommandLine.Invocation
import TreeLint.Linter
import TreeLint.Report
import TreeLint.Text.Word

namespace TreeLint.CommandLine

open Console

/-! ### The console -/

def usualWidth : Nat := 80

def widthLimit : Nat := 4300

/-- A width in digits that cannot be read as a number. -/
inductive WidthError where
  | unreadable (columns : String)
  | tooLong (digits : Nat)
  deriving DecidableEq, Repr

def WidthError.message : WidthError → String
  | .unreadable columns => "invalid literal for int() with base 10: " ++ Text.quoted columns
  | .tooLong digits =>
    "Exceeds the limit (" ++ toString widthLimit ++ " digits) for integer string conversion: value has "
      ++ toString digits ++ " digits; use sys.set_int_max_str_digits() to increase the limit"

/-- The width of the console: what the environment says in digits, or else the usual one.  Digits in
circles or above the line are digits, but no number is read from them. -/
def consoleWidth : Option String → Except WidthError Nat
  | none => .ok usualWidth
  | some columns =>
    let digits := columns.toList
    if digits.isEmpty || !digits.all Text.isDigit then .ok usualWidth
    else match digits.mapM Text.digitValue? with
      | none => .error (.unreadable columns)
      | some values =>
        if widthLimit < values.length then .error (.tooLong values.length)
        else .ok (values.foldl (fun n d => n * 10 + d) 0)

/-! ### Results -/

inductive Crash where
  | drawing (cause : DrawError)
  | path (cause : BadPath)
  | rule (cause : Failure)
  | width (cause : WidthError)
  deriving DecidableEq, Repr

def Crash.message : Crash → String
  | .drawing cause => cause.message
  | .path cause => cause.message
  | .rule cause => cause.message
  | .width cause => cause.message

inductive Result where
  | usage (e : UsageError)
  | exited (code : Nat) (output errors : String)
  | crashed (cause : Crash) (output errors : String)
  deriving DecidableEq, Repr

/-- The records that a reader sees, one a line. -/
def recordLines (debug : Bool) (records : List Record) : String :=
  String.join ((records.filter fun r => debug || r.level.isAlert).map fun r => r.line ++ "\n")

/-! ### Linting files -/

/-- The mistake in naming the first file that is not there or is not a file.  Paths are looked up in
normal form and shown as they were given. -/
def checkFiles (lookup : String → Lookup) : List String → Option Mistake
  | [] => none
  | path :: rest =>
    match lookup (Path.normalize path) with
    | .document _ => checkFiles lookup rest
    | .refused .isDirectory => some (.fileIsDirectory path)
    | .refused _ => some (.fileNotFound path)
    | .badPath => some .fileHasNull

def lintFiles (linter : Linter) (lookup : String → Lookup) :
    List String → Logged (Except Linter.PathFailure (List Diagnostic))
  | [] => pure (.ok [])
  | file :: rest => do
    let path := Path.normalize file
    match ← linter.lintLookup path (lookup path) with
    | .error cause => pure (.error cause)
    | .ok found => do
      let others ← lintFiles linter lookup rest
      pure (others.map (found ++ ·))

/-- The diagnostics that are shown: those that are serious enough. -/
def shown (minSeverity : Severity) (ds : List Diagnostic) : List Diagnostic :=
  ds.filter fun d => decide (minSeverity ≤ d.severity)

def exitCode (ds : List Diagnostic) : Nat := if ds.any (·.severity == .error) then 1 else 0

/-- The linter that a request asks for: all rules, or only those that it names. -/
def requestLinter (request : LintRequest) : Logged Linter := do
  let registry ← Registry.default
  Linter.build {} registry request.profile
    (if request.rules.isEmpty then none else some request.rules)

/-- What linting a request's files finds, before anything is shown. -/
def requestFindings (lookup : String → Lookup) (request : LintRequest) (linter : Linter) :
    Logged (Except Linter.PathFailure (List Diagnostic)) :=
  lintFiles linter lookup request.files

def Crash.ofPathFailure : Linter.PathFailure → Crash
  | .path cause => .path cause
  | .rule cause => .rule cause

/-- Ends a run with the blocks that it shows, on a console of the width that the environment gives. -/
def finish (columns : Option String) (code : Nat) (blocks : List Block) (errors : String) : Result :=
  match consoleWidth columns with
  | .error cause => .crashed (.width cause) "" errors
  | .ok width =>
    let screen := drawAll width blocks
    let output := String.ofList screen.text
    match screen.error with
    | none => .exited code output errors
    | some cause => .crashed (.drawing cause) output errors

def runLint (lookup : String → Lookup) (columns : Option String) (debug : Bool) (request : LintRequest) :
    Result :=
  match checkFiles lookup request.files with
  | some mistake => .usage ⟨mistake, []⟩
  | none =>
    let linter := requestLinter request
    if linter.value.rules.isEmpty then
      .exited 1 "No rules are enabled in the current configuration.\n"
        (recordLines debug linter.records)
    else
      let findings := requestFindings lookup request linter.value
      let errors := recordLines debug (linter.records ++ findings.records)
      match findings.value with
      | .error cause => .crashed (Crash.ofPathFailure cause) "" errors
      | .ok found =>
        let ds := shown request.minSeverity found
        finish columns (exitCode ds) (Report.diagnostics request.verbose ds) errors

def runRules (columns : Option String) (debug : Bool) : Result :=
  let registry := Registry.default
  finish columns 0 (Report.ruleList (registry.value.allInfo.map Report.Listing.ofInfo))
    (recordLines debug registry.records)

def Invocation.run (lookup : String → Lookup) (columns : Option String) (i : Invocation) : Result :=
  match i.command with
  | .lint request => runLint lookup columns i.debug request
  | .rules => runRules columns i.debug
  | .help text => .exited 0 text ""

def run (lookup : String → Lookup) (columns : Option String) (words : List String) : Result :=
  match Invocation.read words with
  | .error e => .usage e
  | .ok invocation => invocation.run lookup columns

end TreeLint.CommandLine
