/-
  TreeLint/Console/Layout.lean
  ============================
  **Drawing blocks** the way rich draws them.  A block is drawn for a console of a given width.  Lines are
  wrapped and folded; panels are as wide as the console; tables are as wide as their contents need and
  never wider than the console.  Drawing fails where markup cannot be read or text cannot be cut, and then
  nothing of the block is drawn.

  What has no cell at all to be drawn in is not drawn and, but for lines, not even read.
-/
import TreeLint.Console.Block
import TreeLint.Console.Highlight
import TreeLint.Console.Markup
import TreeLint.Console.Widths

namespace TreeLint.Console

inductive DrawError where
  | markup (cause : MarkupError)
  | cut (cause : CutError)
  deriving DecidableEq, Repr

def DrawError.message : DrawError → String
  | .markup cause => cause.message
  | .cut cause => cause.message

def readMarkup (s : String) : Except DrawError Styled := (Markup.read s).mapError .markup

def cutting {α : Type} (result : Except CutError α) : Except DrawError α := result.mapError .cut

/-! ### Frames -/

/-- A line across a frame: its left end, what it is filled with, what stands between columns, and its
right end. -/
structure Edge where
  left : Char
  fill : Char
  divider : Char
  right : Char

/-- The line above, the line under the header, the line below, and the bars of a row. -/
structure Strokes where
  top : Edge
  head : Edge
  bottom : Edge
  bar : Char

def Frame.strokes : Frame → Strokes
  | .rounded => ⟨⟨'╭', '─', '┬', '╮'⟩, ⟨'├', '─', '┼', '┤'⟩, ⟨'╰', '─', '┴', '╯'⟩, '│'⟩
  | .simple => ⟨⟨' ', ' ', ' ', ' '⟩, ⟨' ', '─', '─', ' '⟩, ⟨' ', ' ', ' ', ' '⟩, ' '⟩

def joined (divider : Char) : List (List Char) → List Char
  | [] => []
  | [cell] => cell
  | cell :: rest => cell ++ divider :: joined divider rest

def Edge.draw (edge : Edge) (widths : List Nat) : List Char :=
  edge.left :: (joined edge.divider (widths.map fun w => List.replicate w edge.fill) ++ [edge.right])

/-! ### Lines and panels -/

/-- The lines of a text in a number of cells.  The first style in them with a colour that cannot be
worked out is an error. -/
def linesIn (cells : Nat) (overflow : Overflow) (justify : Justify) (t : Styled) :
    Except DrawError (List Line) :=
  if cells = 0 then .ok []
  else do
    let lines ← cutting (wrap cells overflow justify t)
    match (lines.flatMap (·.spans)).findSome? (·.fault) with
    | some cause => throw (.markup (.colour cause))
    | none => pure (lines.map (·.runs))

def drawLine (console : Nat) (markup : String) : Except DrawError (List Line) := do
  let t ← readMarkup markup
  let highlights := (Highlight.stretches t.chars).map fun s => (⟨s.start, s.stop, none⟩ : Span)
  linesIn console .fold .ragged { t with spans := highlights ++ t.spans }

/-- The upper line of a panel: the title in the middle of it, if there is room for one. -/
def Panel.top (console : Nat) (title : List Char) (p : Panel) : List Char :=
  let edge := p.frame.strokes.top
  if console ≤ 4 then edge.draw [console - 2]
  else
    let inner := console - 4
    let text := takeCells inner (clusters (' ' :: (title ++ [' '])))
    [edge.left, edge.fill] ++ centre edge.fill inner text ++ [edge.fill, edge.right]

/-- A panel: the upper line, the body between bars, the lower line. -/
def Panel.draw (console : Nat) (p : Panel) : Except DrawError (List Line) := do
  let title ← readMarkup p.title
  let strokes := p.frame.strokes
  let inner := console - 4
  let body ← if inner = 0 then pure [] else (readMarkup p.body).bind (linesIn inner .fold .ragged)
  let rows ← body.mapM fun line => do
    let filled ← cutting (line.fill inner)
    pure ([[strokes.bar, ' ']] ++ filled ++ [[' ', strokes.bar]])
  pure ([p.top console title.chars] :: (rows ++ [[strokes.bottom.draw [console - 2]]]))

/-! ### Tables -/

def Cell.read : Cell → Except DrawError Styled
  | .markup s => readMarkup s
  | .styled s _ => .ok ⟨Markup.printable s.toList, []⟩

/-- A column whose texts have been read, the header first. -/
structure ReadColumn where
  justify : Justify
  width : Option Nat
  texts : List Styled

def paddingWidth : Nat := 2 * cellPadding

/-- Reads the texts of a column, unless no column can be wide enough to show one. -/
def Column.read (limit : Nat) (c : Column) : Except DrawError ReadColumn :=
  if limit ≤ paddingWidth then
    .ok ⟨c.justify, c.width, List.replicate (c.cells.length + 1) ⟨[], []⟩⟩
  else do
    let header ← readMarkup c.header
    let cells ← c.cells.mapM Cell.read
    pure ⟨c.justify, c.width, header :: cells⟩

/-- The width that a column asks for, padding included, where no more than `limit` can be had. -/
def ReadColumn.measure (limit : Nat) (c : ReadColumn) : Nat :=
  match c.width with
  | some w => min limit (w + paddingWidth)
  | none =>
    if limit ≤ paddingWidth then limit
    else min limit (greatest (c.texts.map fun t => min limit (widest t.chars)) + paddingWidth)

/-- The widths of columns, padding included. -/
def columnWidths (limit : Nat) (columns : List ReadColumn) : List Nat :=
  let asked := columns.map fun c => max 1 (c.measure limit)
  if totalCells asked ≤ limit then asked
  else
    let granted := shareOut limit ((columns.map (·.width.isNone)).zip asked)
    (columns.zip granted).map fun (c, w) => c.measure w

def cellLines (width : Nat) (justify : Justify) (t : Styled) : Except DrawError (List Line) := do
  let inner := width - paddingWidth
  let lines ← linesIn inner .ellipsis justify t
  lines.mapM fun line => cutting do
    let filled ← line.fill inner
    let padded ← Line.fill width ([spaces cellPadding] ++ filled ++ [spaces cellPadding])
    padded.fill width

/-- Fills a cell up with blank lines, below its lines or, in a header, above them. -/
def fillLines (header : Bool) (height width : Nat) (lines : List Line) : List Line :=
  let blank := List.replicate (height - lines.length) [spaces width]
  if header then blank ++ lines else lines ++ blank

def barred (bar : Char) : List Line → Line
  | [] => []
  | [last] => last
  | line :: rest => line ++ [bar] :: barred bar rest

def sideBySide (bar : Char) (height : Nat) (cells : List (List Line)) : List Line :=
  (List.range height).map fun i =>
    [bar] :: (barred bar (cells.map fun lines => lines[i]?.getD []) ++ [[bar]])

/-- A row of a table, at least one line high. -/
def drawRow (bar : Char) (header : Bool) (columns : List (ReadColumn × Nat)) (texts : List Styled) :
    Except DrawError (List Line) := do
  let cells ← (columns.zip texts).mapM fun ((c, w), t) => cellLines w c.justify t
  let height := max 1 (greatest (cells.map (·.length)))
  let filled := (columns.zip cells).map fun ((_, w), lines) => fillLines header height w lines
  pure (sideBySide bar height filled)

/-- The rows of columns, the header first. -/
def rowsOf (columns : List ReadColumn) : List (List Styled) :=
  (List.range (greatest (columns.map (·.texts.length)))).map fun i =>
    columns.map fun c => c.texts[i]?.getD ⟨[], []⟩

def drawRows (strokes : Strokes) (placed : List (ReadColumn × Nat)) :
    List (List Styled) → Except DrawError (List Line)
  | [] => .ok []
  | header :: body => do
    let head ← drawRow strokes.bar true placed header
    let rows ← body.mapM (drawRow strokes.bar false placed)
    pure (head ++ [[strokes.head.draw (placed.map (·.2))]] ++ rows.flatten)

def Table.draw (console : Nat) (t : Table) : Except DrawError (List Line) := do
  let borders := t.columns.length + 1
  let limit := console - borders
  let columns ← t.columns.mapM (Column.read limit)
  let widths := columnWidths limit columns
  let title ← match t.title with
    | none => pure []
    | some s => (readMarkup s).bind (linesIn (totalCells widths + borders) .fold .centre)
  let strokes := t.frame.strokes
  let rows ← drawRows strokes (columns.zip widths) (rowsOf columns)
  pure (title ++ [[strokes.top.draw widths]] ++ rows ++ [[strokes.bottom.draw widths]])

/-! ### Reports -/

/-- The lines of a block.  A console without cells shows nothing, but a line is read all the same. -/
def Block.lines (console : Nat) (block : Block) : Except DrawError (List Line) :=
  match block with
  | .line markup => drawLine console markup
  | .blank => .ok (if console = 0 then [] else [[]])
  | .panel p => if console = 0 then .ok [] else p.draw console
  | .table t => if console = 0 then .ok [] else t.draw console

/-- A block as a console shows it: lines cut off where it ends, each with a line feed after it. -/
def Block.draw (console : Nat) (block : Block) : Except DrawError (List Char) := do
  let lines ← block.lines console
  let cropped ← cutting (lines.mapM (·.crop console))
  pure (cropped.flatMap fun line => line.flatten ++ ['\n'])

/-- What a console shows of a report: text, and the error that ended it. -/
structure Screen where
  text : List Char
  error : Option DrawError
  deriving DecidableEq, Repr

/-- Draws blocks one after the other, up to the first that cannot be drawn. -/
def drawAll (console : Nat) : List Block → Screen
  | [] => ⟨[], none⟩
  | block :: rest =>
    match block.draw console with
    | .error e => ⟨[], some e⟩
    | .ok text =>
      let screen := drawAll console rest
      { screen with text := text ++ screen.text }

end TreeLint.Console
