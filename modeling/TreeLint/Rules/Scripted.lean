/-
  TreeLint/Rules/Scripted.lean
  ============================
  **Rules given as data.**  A rule can be described instead of programmed: by what it does at each kind
  of node, by a fixed list of findings, or as one that fails or finds nothing.  Such rules exercise the
  engine, and let a caller run a walk without writing an inspector.

  A script for a kind of node may have answers for the walk, used one after the other, of which the last
  is repeated, and a remark.  The remark is made of documents that are read each time the script runs, so
  a bad one makes the walk fail at that node.
-/
import TreeLint.Rule

namespace TreeLint.Scripted

open Data

structure Script where
  answers : Option (List (Option Action))
  message : Option Value
  fix : Option Value
  notes : List Value

/-- The answer at a call, where calls are counted from 0.  A script that says nothing of answers goes
into the children; one with an empty list of them fails. -/
def Script.answer (script : Script) (call : Nat) : Except Failure (Option Action) :=
  match script.answers with
  | none => .ok (some .visitChildren)
  | some answers =>
    match answers[min call (answers.length - 1)]? with
    | some answer => .ok answer
    | none => .error .noAnswer

/-- Reads documents one by one, up to the first that is invalid. -/
def validateAll (α : Type) [Schema α] : List Value → Except Invalid (List α)
  | [] => .ok []
  | v :: rest =>
    match Schema.validate α v with
    | .error e => .error e
    | .ok a => (validateAll α rest).map (a :: ·)

def validateOption (α : Type) [Schema α] : Option Value → Except Invalid (Option α)
  | none => .ok none
  | some v => (Schema.validate α v).map some

def Script.remarks (script : Script) (n : Node) : Except Invalid (List Remark) :=
  match script.message with
  | none => .ok []
  | some message =>
    match validateOption Fix script.fix with
    | .error e => .error e
    | .ok fix => (validateAll Note script.notes).map fun notes => [⟨n, message, fix, notes⟩]

/-- Runs a script at a node; the state counts the calls by kind of node. -/
def run (script : Script) (n : Node) (calls : Entries Nat) : Reply (Entries Nat) :=
  let call := (Entries.get? n.kind calls).getD 0
  let next := Entries.set n.kind (call + 1) calls
  match script.remarks n with
  | .error e => ⟨[], .error (.invalid e), next⟩
  | .ok remarks => ⟨remarks, script.answer call, next⟩

def inspector (scripts : Entries Script) : Inspector where
  State := Entries Nat
  initial := []
  handler? _ kind := (Entries.get? kind scripts).map run

/-- The check that gives fixed findings, read when it runs. -/
def findings (documents : List Value) : Check := fun _ _ =>
  pure ((validateAll Diagnostic documents).mapError .invalid)

def failing (failure : Failure) : Check := fun _ _ => pure (.error failure)

def silent : Check := fun _ _ => pure (.ok [])

/-- The check that finds nothing but needs its settings written out. -/
def echo : Check := fun _ context =>
  pure (match Schema.write context.settings with
    | .ok _ => .ok []
    | .error cause => .error (.unwritable cause))

end TreeLint.Scripted
