/-
  TreeLint/Rule.lean
  ==================
  **Rules.**  A rule definition has a description for listings, examples of code that it reports and of
  code that it leaves alone, and a check.  A rule is a definition with settings; it holds nothing else,
  so one rule serves any number of files.

  Most rules are inspectors: they look at the nodes of certain kinds during one walk and make remarks.
  An inspector never builds a diagnostic itself.  Each remark is stamped with the rule's identifier and
  severity and the file's name, and placed at its node's content.
-/
import TreeLint.Category
import TreeLint.Context
import TreeLint.Diagnostic
import TreeLint.Tree.Walk

namespace TreeLint

open Data

/-! ### Failures -/

/-- Why a check ended without findings.  An interruption is not a failure of the rule: it ends the whole
run. -/
inductive Failure where
  | span (cause : SpanError)
  | invalid (cause : Invalid)
  | unwritable (cause : Unwritable)
  | noAnswer
  | raised (kind message : String)
  | interrupted (kind message : String)
  deriving DecidableEq, Repr

/-- A failure that concerns the rule alone, so that other rules go on. -/
def Failure.isOrdinary : Failure → Bool
  | .interrupted _ _ => false
  | _ => true

def Failure.message : Failure → String
  | .span cause => cause.message
  | .invalid cause =>
    toString cause.problems.length ++ " problem(s) with a document that should be a " ++ cause.schema
  | .unwritable cause => cause.message
  | .noAnswer => "list index out of range"
  | .raised _ message => message
  | .interrupted _ message => message

/-! ### Definitions and rules -/

structure RuleInfo where
  identifier : String
  name : String
  description : String
  category : Category
  defaultSeverity : Severity
  documentation : Option String
  deriving DecidableEq, Repr, Inhabited

/-- A check of one file under given settings. -/
abbrev Check := Settings → Context → Logged (Except Failure (List Diagnostic))

/-- A kind of rule.  Two definitions are the same when they have the same serial number; the label is
the name that it has in messages. -/
structure RuleDefinition where
  serial : Nat
  label : String
  info : RuleInfo
  triggering : List String
  nonTriggering : List String
  check : Check

structure Rule where
  definition : RuleDefinition
  settings : Settings

namespace RuleDefinition

def identifier (d : RuleDefinition) : String := d.info.identifier

def defaultSettings (d : RuleDefinition) : Settings := { severity := some d.info.defaultSeverity }

def create (d : RuleDefinition) (settings : Option Settings) : Rule :=
  ⟨d, settings.getD d.defaultSettings⟩

end RuleDefinition

namespace Rule

def identifier (r : Rule) : String := r.definition.identifier

def severity (r : Rule) : Severity :=
  Severity.resolve r.definition.info.defaultSeverity r.settings.severity

def lint (r : Rule) (context : Context) : Logged (Except Failure (List Diagnostic)) :=
  r.definition.check r.settings context

def describe (r : Rule) : String :=
  r.definition.label ++ "(severity=" ++ Text.quoted r.severity.name ++ ")"

end Rule

/-! ### Remarks -/

/-- What an inspector has to say about a node.  The message is a document that has to be a text. -/
structure Remark where
  node : Node
  message : Value
  fix : Option Fix
  notes : List Note

/-- The rule in whose name remarks are made. -/
structure Reporter where
  identifier : String
  severity : Severity

namespace Reporter

/-- A remark at a location, stamped with the rule and the file.  The rule has to have a name. -/
def stamp (reporter : Reporter) (context : Context) (remark : Remark) (location : Location) :
    Reading Diagnostic :=
  (fun rule message =>
    { rule := rule
      severity := reporter.severity
      message := message
      file := context.file
      location := location
      fix := remark.fix
      notes := remark.notes })
    <$> (readName (.text reporter.identifier)).under (.field "rule_identifier")
    <*> (readText remark.message).under (.field "message")

/-- Makes a remark into a diagnostic, placed at its node's content. -/
def diagnose (reporter : Reporter) (context : Context) (remark : Remark) :
    Except Failure Diagnostic :=
  match Location.ofNode context.source remark.node with
  | .error cause => .error (.span cause)
  | .ok location =>
    match reporter.stamp context remark location with
    | .value diagnostic => .ok diagnostic
    | .problems ps => .error (.invalid ⟨Schema.name Diagnostic, ps⟩)

/-- Makes remarks into diagnostics in order, up to the first that cannot be made. -/
def diagnoseAll (reporter : Reporter) (context : Context) :
    List Remark → List Diagnostic × Option Failure
  | [] => ([], none)
  | remark :: rest =>
    match reporter.diagnose context remark with
    | .error failure => ([], some failure)
    | .ok diagnostic =>
      let (diagnostics, failure) := diagnoseAll reporter context rest
      (diagnostic :: diagnostics, failure)

end Reporter

/-! ### Inspectors -/

/-- What an inspector does at a node: remarks, then an answer to the walk, and its next state. -/
structure Reply (σ : Type) where
  remarks : List Remark
  answer : Except Failure (Option Action)
  state : σ

/-- A rule's part in a walk: a handler for each kind of node that it cares about. -/
structure Inspector where
  State : Type
  initial : State
  handler? : Context → String → Option (Node → State → Reply State)

namespace Inspector

/-- The state of a walk with an inspector: its own, and the diagnostics so far. -/
abbrev Progress (inspector : Inspector) := inspector.State × List Diagnostic

/-- A handler as a visitor that turns remarks into diagnostics.  A remark that cannot be made ends the
visit, and what was remarked before it stays. -/
def handle (inspector : Inspector) (reporter : Reporter) (context : Context)
    (handler : Node → inspector.State → Reply inspector.State) :
    Visitor inspector.Progress Failure :=
  fun n (state, found) =>
    let reply := handler n state
    let (diagnostics, failure) := reporter.diagnoseAll context reply.remarks
    let answer := match failure with
      | some cause => .error cause
      | none => reply.answer
    ⟨answer, (reply.state, found ++ diagnostics)⟩

def visitor (inspector : Inspector) (reporter : Reporter) (context : Context) :
    Visitor inspector.Progress Failure :=
  Visitor.dispatch fun kind =>
    (inspector.handler? context kind).map (inspector.handle reporter context)

def walk (inspector : Inspector) (reporter : Reporter) (context : Context) :
    Walk inspector.Progress Failure :=
  context.root.walk (inspector.visitor reporter context) (inspector.initial, [])

/-- The findings of a walk; a walk that failed has none. -/
def findings (inspector : Inspector) (w : Walk inspector.Progress Failure) :
    Except Failure (List Diagnostic) :=
  match w.ending with
  | .failed cause => .error cause
  | _ => .ok w.state.2

def check (inspector : Inspector) (info : RuleInfo) : Check := fun settings context =>
  let reporter : Reporter := ⟨info.identifier, Severity.resolve info.defaultSeverity settings.severity⟩
  let w := inspector.walk reporter context
  ⟨inspector.findings w, w.records info.identifier⟩

end Inspector

end TreeLint
