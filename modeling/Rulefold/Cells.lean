import Rulefold.Checked
import Rulefold.Grid

/-!
# The cells of a grid

Rules are looked up and compared by way of a table. It has a cell for each rule and each column, and
the cell holds the place of the rule's statement in the column. The table is filled once, statement
by statement. It holds places and no statements, so that the statements can be changed later.
-/

namespace Rulefold

/-- The table of a chain. -/
structure Cells where
  /-- For each rule, and for each column, the place of the rule's last statement in the column. -/
  places : List (List (Option Nat))
  /-- For each rule whether it has two statements in one column. -/
  barriers : List Bool
  deriving DecidableEq

namespace Cells

/-- A table with nothing in its cells. -/
def blank (rules width : Nat) : Cells where
  places := List.replicate rules (List.replicate width none)
  barriers := List.replicate rules false

/-- Marks a rule as a barrier if a statement has been entered in one of its cells before. -/
def mark (barriers : List Bool) (rule : Nat) : Option Nat → Except Fault (List Bool)
  | none => return barriers
  | some _ => Checked.set barriers rule true

/-- Enters the place of a statement of a rule in a column. -/
def enter (rule : Nat) (cells : Cells) (entry : Nat × Nat) : Except Fault Cells := do
  let row ← Checked.get cells.places rule
  let earlier ← Checked.get row entry.1
  let barriers ← mark cells.barriers rule earlier
  let row ← Checked.set row entry.1 (some entry.2)
  return { places := ← Checked.set cells.places rule row, barriers }

/-- Enters the places of all statements of a rule, of which the columns are given. -/
def enterAll (cells : Cells) (entry : List Nat × Nat) : Except Fault Cells :=
  entry.1.zipIdx.foldlM (enter entry.2) cells

/-- The table of a grid. -/
def ofGrid (grid : Grid) : Except Fault Cells :=
  (grid.rows.map Row.columns).zipIdx.foldlM enterAll (blank grid.rows.length grid.width)

/-- The place of a rule's statement in a column, if it has one there. -/
def place? (cells : Cells) (rule column : Nat) : Except Fault (Option Nat) := do
  Checked.get (← Checked.get cells.places rule) column

/-- A rule's statement in a column, if it has one there. -/
def statement? (cells : Cells) (rules : List Rule) (rule column : Nat) :
    Except Fault (Option Statement) := do
  match ← cells.place? rule column with
  | none => return none
  | some place => return some (← Checked.get (← Checked.get rules rule).statements place)

/-- A rule's match in a column. -/
def test (cells : Cells) (rules : List Rule) (rule column : Nat) : Except Fault Match := do
  match (← cells.statement? rules rule column).bind Statement.match? with
  | some test => return test
  | none => throw (.notAMatch rule column)

/-- Says whether two rules are no barriers and have alike statements in every column. -/
def alike (cells : Cells) (rules : List Rule) (first second : Nat) : Except Fault Bool := do
  if ← Checked.get cells.barriers first then return false
  else if ← Checked.get cells.barriers second then return false
  else
    let row ← Checked.get cells.places first
    (List.range row.length).allM fun column => do
      return Statement.alike (← cells.statement? rules first column)
        (← cells.statement? rules second column)

end Cells

end Rulefold
