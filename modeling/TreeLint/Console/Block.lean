/-
  TreeLint/Console/Block.lean
  ===========================
  **What a report is made of.**  A report is a list of blocks: blank lines, marked-up lines, panels and
  tables.  Blocks name styles but say nothing of widths and lines; `TreeLint.Console.Layout` draws them.
-/
import TreeLint.Console.Wrap

namespace TreeLint.Console

inductive Frame where
  | rounded
  | simple
  deriving DecidableEq, Repr

/-- A text in a frame that is as wide as the console. -/
structure Panel where
  body : String
  title : String
  borderStyle : String
  frame : Frame
  deriving DecidableEq, Repr

/-- The contents of a cell: marked-up text, or text taken as it is in one style. -/
inductive Cell where
  | markup (s : String)
  | styled (s style : String)
  deriving DecidableEq, Repr

/-- A column of a table.  Without a fixed width it is as wide as its contents. -/
structure Column where
  header : String
  justify : Justify := .left
  style : String := ""
  width : Option Nat := none
  cells : List Cell
  deriving DecidableEq, Repr

structure Table where
  title : Option String
  headerStyle : String
  frame : Frame
  columns : List Column
  deriving DecidableEq, Repr

inductive Block where
  | blank
  | line (markup : String)
  | panel (p : Panel)
  | table (t : Table)
  deriving DecidableEq, Repr

def cellPadding : Nat := 1

end TreeLint.Console
