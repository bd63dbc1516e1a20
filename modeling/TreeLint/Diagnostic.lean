/-
  TreeLint/Diagnostic.lean
  ========================
  **What a rule reports.**  A diagnostic names the rule, its severity, the file and the place, and says
  what is wrong.  It may carry a fix, a text to put in place of a range of the file, and notes.

  Lines and columns count from one.  A location without end is a point; with an end it runs from its
  line and column up to, and not including, its end line and end column.
-/
import TreeLint.Severity
import TreeLint.Tree.Node

namespace TreeLint

open Data

/-! ### Types -/

structure Location where
  line : Nat
  column : Nat
  endLine : Option Nat
  endColumn : Option Nat
  deriving DecidableEq, Repr, Inhabited

/-- The stretch of a file that a fix replaces. -/
structure Range where
  start : Location
  stop : Location
  deriving DecidableEq, Repr, Inhabited

/-- A replacement that removes the cause of a diagnostic; the empty text deletes. -/
structure Fix where
  description : String
  replacement : String
  range : Option Range
  deriving DecidableEq, Repr, Inhabited

structure Note where
  message : String
  location : Option Location
  deriving DecidableEq, Repr, Inhabited

structure Diagnostic where
  rule : String
  severity : Severity
  message : String
  file : String
  location : Location
  fix : Option Fix
  notes : List Note
  deriving DecidableEq, Repr, Inhabited

/-! ### Places in a source -/

namespace Location

/-- A point: neither end is given. -/
def isPoint (l : Location) : Bool := l.endLine.isNone && l.endColumn.isNone

def ofOffset (s : Source) (offset : Int) : Location :=
  let p := s.position offset
  ⟨p.line, p.column, none, none⟩

def ofSpan (s : Source) (span : Span) : Location :=
  let p := s.position span.start
  let q := s.position span.stop
  ⟨p.line, p.column, some q.line, some q.column⟩

def ofNode (s : Source) (n : Node) : Except SpanError Location :=
  (s.contentSpan n).map (ofSpan s)

end Location

namespace Range

def ofSpan (s : Source) (span : Span) : Range :=
  ⟨Location.ofOffset s span.start, Location.ofOffset s span.stop⟩

def ofNode (s : Source) (n : Node) : Except SpanError Range :=
  (s.contentSpan n).map (ofSpan s)

end Range

/-! ### Documents -/

instance : Schema Location where
  name := "SourceLocation"
  read fields :=
    Location.mk <$> required readPositive "line" fields
      <*> required readPositive "column" fields
      <*> optional (nullable readPositive) none "end_line" fields
      <*> optional (nullable readPositive) none "end_column" fields
  fields l :=
    [("line", .int l.line), ("column", .int l.column), ("end_line", dumpNat? l.endLine),
     ("end_column", dumpNat? l.endColumn)]

instance : Schema Range where
  name := "SourceRange"
  read fields :=
    Range.mk <$> required (Schema.record Location) "start" fields
      <*> required (Schema.record Location) "end" fields
  fields r := [("start", Schema.dump r.start), ("end", Schema.dump r.stop)]
  holding _ := .record

instance : Schema Fix where
  name := "Fix"
  read fields :=
    Fix.mk <$> required readText "description" fields
      <*> required readText "replacement" fields
      <*> optional (nullable (Schema.record Range)) none "range" fields
  fields f :=
    [("description", .text f.description), ("replacement", .text f.replacement),
     ("range", Schema.dumpOption f.range)]
  holding field := if field = "range" then .record else .plain

instance : Schema Note where
  name := "Note"
  read fields :=
    Note.mk <$> required readText "message" fields
      <*> optional (nullable (Schema.record Location)) none "location" fields
  fields n := [("message", .text n.message), ("location", Schema.dumpOption n.location)]
  holding field := if field = "location" then .record else .plain

instance : Schema Diagnostic where
  name := "Diagnostic"
  read fields :=
    Diagnostic.mk <$> required readName "rule_identifier" fields
      <*> required Severity.read "severity" fields
      <*> required readText "message" fields
      <*> required readText "file_path" fields
      <*> required (Schema.record Location) "location" fields
      <*> optional (nullable (Schema.record Fix)) none "fix" fields
      <*> optional (sequenceOf (Schema.record Note)) [] "notes" fields
  fields d :=
    [("rule_identifier", .text d.rule), ("severity", d.severity.dump), ("message", .text d.message),
     ("file_path", .text d.file), ("location", Schema.dump d.location),
     ("fix", Schema.dumpOption d.fix), ("notes", .list (d.notes.map Schema.dump))]
  holding field :=
    if field = "notes" then .sequence
    else if field = "location" ∨ field = "fix" then .record
    else .plain

end TreeLint
