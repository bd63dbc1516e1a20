/-
  TreeLint/Console/Widths.lean
  ============================
  **Sharing out the width of a table**, as rich does it.  Each column asks for what its contents need.  If
  the columns ask for more than there is, those without a fixed width give way: the widest are reduced
  towards the next widest, sharing what is too much between them, until the table fits.  If that is not
  enough, all columns are reduced evenly.
-/
import TreeLint.Console.Cells
import TreeLint.Data.Number

namespace TreeLint.Console

/-- A column while widths are shared out: whether it gives way, by how much at most, and its width. -/
structure Share where
  gives : Bool
  most : Nat
  width : Nat
  deriving DecidableEq, Repr

/-- Takes `excess` off the columns that give way, of which `givers` are left, each taking an equal part
of what remains and no more than it can. -/
def takeOff : Nat → Nat → List Share → List Nat
  | _, _, [] => []
  | excess, givers, share :: rest =>
    if share.gives ∧ 0 < givers then
      let part := min share.most (roundDiv excess givers)
      (share.width - part) :: takeOff (excess - part) (givers - 1) rest
    else share.width :: takeOff excess givers rest

def reduce (excess : Nat) (shares : List Share) : List Nat :=
  takeOff excess (shares.filter (·.gives)).length shares

/-- The greatest of some numbers, 0 for none. -/
def greatest (ns : List Nat) : Nat := ns.foldl max 0

/-- The shares of one round: the widest flexible columns give way, down to the next widest. -/
def roundShares (excess : Nat) (columns : List (Bool × Nat)) : List Share :=
  let flexible := (columns.filter (·.1)).map (·.2)
  let top := greatest flexible
  let next := greatest (flexible.filter (· != top))
  columns.map fun (gives, w) => ⟨gives && w == top, min excess (top - next), w⟩

def collapseRounds : Nat → Nat → List (Bool × Nat) → List Nat
  | 0, _, columns => columns.map (·.2)
  | rounds + 1, limit, columns =>
    let widths := columns.map (·.2)
    let excess := totalCells widths - limit
    let shares := roundShares excess columns
    if excess = 0 ∨ !shares.any (fun s => s.gives && s.most != 0) then widths
    else collapseRounds rounds limit ((columns.map (·.1)).zip (reduce excess shares))

/-- Reduces the flexible columns until the widths fit.  Every round takes off at least one cell, so as
many rounds as there are cells too many are enough. -/
def collapse (limit : Nat) (columns : List (Bool × Nat)) : List Nat :=
  collapseRounds (totalCells (columns.map (·.2)) - limit) limit columns

/-- Reduces all columns evenly, each by no more than it has. -/
def squeeze (limit : Nat) (widths : List Nat) : List Nat :=
  let excess := totalCells widths - limit
  if excess = 0 then widths else reduce excess (widths.map fun w => ⟨w != 0, w, w⟩)

def shareOut (limit : Nat) (columns : List (Bool × Nat)) : List Nat :=
  squeeze limit (collapse limit columns)

end TreeLint.Console
