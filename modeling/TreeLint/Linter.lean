/-
  TreeLint/Linter.lean
  ====================
  **Running rules on files.**  A linter is a list of rules chosen from a registry by a configuration, a
  profile and, where only some rules are wanted, a list of identifiers.  Rules run in the order of their
  identifiers, each on its own view of the file.  A rule that fails is reported and its findings are
  lost; the other rules still run.  An interruption ends the run.
-/
import TreeLint.Registry
import TreeLint.Workspace

namespace TreeLint

/-- The rules to run, in order. -/
structure Linter where
  rules : List Rule

namespace Linter

/-! ### Choosing rules -/

/-- A warning for each identifier that the registry does not know. -/
def unknownRules (registry : Registry) (message : String → String) (identifiers : List String) :
    List Record :=
  (identifiers.filter (!registry.contains ·)).map fun i => ⟨.warning, .linter, message i⟩

/-- The identifiers to consider: the known ones, or those of them that are wanted. -/
def selected (registry : Registry) : Option (List String) → List String
  | none => registry.identifiers
  | some wanted => registry.identifiers.filter (wanted.contains ·)

/-- The rule for an identifier, if the settings in force switch it on. -/
def chooseRule (configuration : Configuration) (registry : Registry) (profile : Option String)
    (identifier : String) : Logged (Option Rule) := do
  let settings ← configuration.settingsFor identifier profile
  if settings.enabled then
    pure (registry.create identifier (some settings))
  else
    Logged.note .debug .linter ("Rule " ++ identifier ++ " disabled by configuration")
    pure none

def chooseRules (configuration : Configuration) (registry : Registry) (profile : Option String) :
    List String → Logged (List Rule)
  | [] => pure []
  | identifier :: rest => do
    let rule ← chooseRule configuration registry profile identifier
    let rules ← chooseRules configuration registry profile rest
    pure (rule.toList ++ rules)

def enabledRecord (rules : List Rule) : Record :=
  let names := ", ".intercalate (rules.map (·.identifier))
  ⟨.debug, .linter, "Enabled rules: " ++ (if names.isEmpty then "(none)" else names)⟩

def build (configuration : Configuration) (registry : Registry) (profile : Option String)
    (only : Option (List String)) : Logged Linter :=
  let unknownConfigured :=
    unknownRules registry ("Configuration refers to unknown rule " ++ ·)
      (Data.Entries.keys configuration.rules)
  let unknownWanted :=
    unknownRules registry (fun i => "Unknown rule " ++ i ++ " requested") (only.getD [])
  let chosen := chooseRules configuration registry profile (selected registry only)
  ⟨⟨chosen.value⟩,
    unknownConfigured ++ unknownWanted ++ chosen.records ++ [enabledRecord chosen.value]⟩

/-! ### Linting -/

def views (linter : Linter) (context : Context) : List (Rule × Context) :=
  linter.rules.map fun rule => (rule, context.withSettings rule.settings)

def failureRecord (rule : Rule) (context : Context) : Record :=
  ⟨.error, .linter, "Rule " ++ rule.identifier ++ " failed on " ++ context.file⟩

def runViews : List (Rule × Context) → Logged (Except Failure (List Diagnostic))
  | [] => pure (.ok [])
  | (rule, view) :: rest =>
    let outcome := rule.lint view
    match outcome.value with
    | .ok found =>
      let others := runViews rest
      ⟨others.value.map (found ++ ·), outcome.records ++ others.records⟩
    | .error cause =>
      if cause.isOrdinary then
        let others := runViews rest
        ⟨others.value, outcome.records ++ failureRecord rule view :: others.records⟩
      else ⟨.error cause, outcome.records⟩

/-- The views that a run gets to: all up to the first whose rule is interrupted. -/
def reached : List (Rule × Context) → List (Rule × Context)
  | [] => []
  | (rule, view) :: rest =>
    match (rule.lint view).value with
    | .ok _ => (rule, view) :: reached rest
    | .error cause => (rule, view) :: (if cause.isOrdinary then reached rest else [])

def lintedRecord (context : Context) (found : List Diagnostic) : Record :=
  ⟨.info, .linter,
    "Linted " ++ context.file ++ ": " ++ toString found.length ++ " diagnostic(s)"⟩

def lint (linter : Linter) (context : Context) : Logged (Except Failure (List Diagnostic)) :=
  let outcome := runViews (linter.views context)
  match outcome.value with
  | .ok found => ⟨.ok found, outcome.records ++ [lintedRecord context found]⟩
  | .error cause => ⟨.error cause, outcome.records⟩

def lintDocument (linter : Linter) (d : Document) (file : String) :
    Logged (Except Failure (List Diagnostic)) := do
  let context ← Context.ofDocument d file none
  linter.lint context

inductive PathFailure where
  | path (cause : BadPath)
  | rule (cause : Failure)

/-- Lints the file at a path, given what the path leads to; an unreadable file has no findings. -/
def lintLookup (linter : Linter) (path : String) (found : Lookup) :
    Logged (Except PathFailure (List Diagnostic)) := do
  match ← Context.ofLookup path none found with
  | .error cause => pure (.error (.path cause))
  | .ok none => pure (.ok [])
  | .ok (some context) => do
    let outcome ← linter.lint context
    pure (outcome.mapError .rule)

end Linter

end TreeLint
